import UIoT.Utils.Httpc

/-!
# The fetch channel

`ofc_init` allocates a client for a URL, `ofc_fetch` requests a range and
receives what it can of the response, `ofc_deinit` closes the connection and
frees the client.
-/

set_option autoImplicit false

namespace UIoT.Ota

open Utils

/-- What the OTA client calls of the port, of MQTT and of the application. -/
structure Platform (ν : Type) extends Transport ν where
  /-- Whether an allocation succeeds. -/
  malloc : ν → Bool × ν
  /-- `IOT_MQTT_Publish` with QoS 1 or not. -/
  publish : ν → Bool → List UInt8 → List UInt8 → Int × ν
  /-- `HAL_Download_Name_Set` -/
  downloadNameSet : ν → List UInt8 → Option (List UInt8) × ν
  /-- `HAL_Download_Init`, which may give no handle. -/
  downloadInit : ν → Option (List UInt8) → Bool × ν
  downloadWrite : ν → UInt32 → List UInt8 → Int × ν
  downloadEnd : ν → Int × ν
  /-- `fetch_callback_func`, where the application has set it. -/
  fetchCallback : Option (ν → Int → ν)
  /-- What is printed for the conversions that have no argument. -/
  missingArguments : ν → List UInt8 × List UInt8 × ν

/-- `OTA_Http_Client` -/
structure OtaHttpClient where
  url : List UInt8
  http : HttpClient
  httpData : HttpClientData
  deriving DecidableEq, Repr

variable {ν : Type} (platform : Platform ν)

def acceptHeader : List UInt8 :=
  literal "Accept: text/html,application/xhtml+xml,application/xml;q=0.9,*/*;q=0.8\r\n" ++
    literal "Accept-Encoding: gzip, deflate\r\n"

/-- `ofc_init` -/
def ofcInit (url : List UInt8) (s : ν) : Option OtaHttpClient × ν :=
  let (allocated, s) := platform.malloc s
  if allocated then
    (some
      { url := url
        http :=
          { net := { hostAddress := [], port := 0, handle := .zero }
            responseCode := 0
            header := some acceptHeader }
        httpData :=
          { isMore := false, isChunked := false, retrieveLen := 0, responseContentLen := 0
            responseReceivedLen := 0, postBufLen := 0, responseBufLen := 0
            postContentType := none, postBuf := none, responseBuf := none } }, s)
  else (none, s)

/-- `ofc_connect` -/
def ofcConnect (ofc : OtaHttpClient) (s : ν) : Outcome (Int × OtaHttpClient × ν) := do
  let port : UInt16 := if platform.usingTls then 443 else 80
  let (rc, http, s) ← httpClientConnect platform.toTransport ofc.http ofc.url port s
  return (rc, { ofc with http := http }, s)

/-- `ofc_fetch` into a buffer: the code or the number of bytes, the client, the
buffer and the platform. -/
def ofcFetch (turns : Nat) (ofc : OtaHttpClient) (sizeFetched : UInt32) (buf : List UInt8)
    (rangeLen timeoutS : UInt32) (s : ν) : Outcome (Int × OtaHttpClient × List UInt8 × ν) := do
  let (rc, s) ← httpSendRequest platform.toTransport ofc.http ofc.url .get sizeFetched rangeLen
    ofc.httpData s
  if rc ≠ successRet then return (rc, ofc, buf, s)
  else
    let httpData := { ofc.httpData with
      responseBuf := some buf
      responseBufLen := buf.length
      responseContentLen := 0
      responseReceivedLen := 0 }
    let diff := httpData.responseContentLen - httpData.retrieveLen
    let (rc, http, httpData, s) ← httpClientRecvData platform.toTransport turns ofc.http
      (timeoutS * 1000) httpData s
    let ofc := { ofc with http := http, httpData := httpData }
    let buf := httpData.responseBuf.getD []
    if rc ≠ successRet then
      if rc = errHttpNotFound then return (errOtaFileNotExist, ofc, buf, s)
      else if rc = errHttpAuthError then return (errOtaFetchAuthFail, ofc, buf, s)
      else if rc = errHttpTimeout then return (errOtaFetchTimeout, ofc, buf, s)
      else return (rc, ofc, buf, s)
    else return (httpData.responseContentLen - httpData.retrieveLen - diff, ofc, buf, s)

/-- `ofc_deinit`: the connection is closed. -/
def ofcDeinit (ofc : OtaHttpClient) (s : ν) : ν :=
  (httpClientClose platform.toTransport ofc.http s).2

end UIoT.Ota
