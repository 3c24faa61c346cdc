import UIoT.Mqtt.Requests
import UIoT.Utils.Printf

/-!
# The shadow client

The state of `UIoT_Shadow` with the two statics of its manager, the requests on
it and what its functions exchange with the rest of the world. Callbacks of the
application are outputs; what a property callback adds to the answer is given
by the environment.

The property list that a `Request` points to is left out: it is freed with the
parameters of the request, and nothing reads it. `ShadowClient.issued` is not in the
source: it counts the requests appended to the list, and `issue` in a request is
the count when it was appended, which names the list node.
-/

set_option autoImplicit false

namespace UIoT.Shadow

open Utils
open Mqtt (CString)

/-! ## Constants -/

/-- `MAX_APPENDING_REQUEST_AT_ANY_GIVEN_TIME` -/
abbrev maxAppendingRequestAtAnyGivenTime : Nat := 10

/-- `CLOUD_IOT_JSON_RX_BUF_LEN` -/
abbrev cloudIotJsonRxBufLen : Nat := Mqtt.uiotMqttRxBufLen + 1

/-- `MAX_WAIT_TIME_SEC` -/
abbrev maxWaitTimeSec : UInt32 := 1

/-! ## Data types -/

/-- `Method` -/
inductive Method where
  | get | update | updateAndResetVer | delete | deleteAll
  | replyControlUpdate | replyControlDelete
  deriving DecidableEq, Repr

/-- `RequestAck` -/
inductive RequestAck where
  | none | timeout | rejected | accepted
  deriving DecidableEq, Repr

/-- What the `data` of a property points to, by its `JsonDataType`. -/
inductive PropertyData where
  | int32 (value : Int32)
  | int16 (value : Int16)
  | int8 (value : Int8)
  | uint32 (value : UInt32)
  | uint16 (value : UInt16)
  | uint8 (value : UInt8)
  | float (value : Floating)
  | double (value : Floating)
  | bool (value : Bool)
  | string (value : CString)
  | object (value : CString)
  deriving DecidableEq, Repr

/-- `DeviceProperty`: null data is `none`. The key is not null, which
`request_common_add_delta_property` and
`shadow_common_register_property_on_delta` check. -/
structure DeviceProperty where
  key : CString
  data : Option PropertyData
  deriving DecidableEq, Repr

/-- `Request` -/
structure Request where
  issue : Nat
  method : Method
  userContext : Nat
  timer : Timer
  callback : Option Nat
  deriving DecidableEq, Repr

/-- `RequestParams` -/
structure RequestParams where
  method : Method
  propertyDeltaList : List DeviceProperty
  timeoutSec : UInt32
  requestCallback : Option Nat
  userContext : Nat
  deriving DecidableEq, Repr

/-- `PropertyHandler` -/
structure PropertyHandler where
  property : DeviceProperty
  callback : Option Nat
  deriving DecidableEq, Repr

/-- `UIoT_Shadow`, with `cloud_rcv_buf` and `cloud_send_method`. -/
structure ShadowClient where
  mqtt : Mqtt.Client
  productSn : CString
  deviceSn : CString
  version : UInt32
  requestList : List Request
  propertyList : List PropertyHandler
  cloudRcvBuf : CString
  cloudSendMethod : Method
  issued : Nat
  deriving DecidableEq, Repr

/-- What a call does to the outside. -/
inductive Output where
  /-- What the MQTT client does. -/
  | mqtt (output : Mqtt.Output)
  /-- The callback of a request is called. -/
  | callback (request : Request) (ack : RequestAck) (document : CString)
  /-- The callback of a property is called. -/
  | property (handler : PropertyHandler) (value : CString)
  deriving DecidableEq, Repr

/-- The behaviour of the world during a call. -/
structure Env where
  /-- The tick at each reading of the clock. -/
  tick : Nat → UInt32
  /-- `rt_tick_from_millisecond` -/
  rtTickFromMillisecond : UInt32 → UInt32
  /-- Whether each allocation succeeds. -/
  malloc : Nat → Bool
  /-- The world during the publication. -/
  publish : Mqtt.Env
  /-- The properties that the callback of a property adds to the answer. -/
  answer : PropertyHandler → CString → List DeviceProperty

/-- The world after some allocations. -/
def Env.after (env : Env) (allocations : Nat) : Env :=
  { env with malloc := fun alloc => env.malloc (alloc + allocations) }

end UIoT.Shadow
