import UIoT.Net
import UIoT.Timer
import UIoT.Utils.Printf

/-!
# The HTTP client

`utils_httpc.c` and the parts of `utils_net.c` below it. A response is read into
a local buffer of 1024 bytes, the header 32 bytes at a time, and its body is moved
from there into the buffer of the caller. A call that reads or writes outside of
a buffer ends in a fault. So does one whose loop takes more turns than it is
given, which says that it has not returned by then.
-/

set_option autoImplicit false

namespace UIoT.Utils

open Json

/-! ## The transport -/

/-- The values of `handle` that are told apart: 0, -1 and those of connections. -/
inductive NetHandle where
  | zero
  | minusOne
  | connection
  deriving DecidableEq, Repr

/-- The functions of the port that a client calls, over a platform in some state.
`HAL_TCP_*` and `HAL_TLS_*` differ in the handles they return. -/
structure Transport (ν : Type) extends NetworkStack ν where
  write : ν → List UInt8 → Int × ν
  connect : ν → List UInt8 → UInt16 → NetHandle × ν
  disconnect : ν → NetHandle → ν
  /-- A reading of the tick. -/
  tick : ν → UInt32 × ν
  rtTickFromMillisecond : UInt32 → UInt32
  /-- `PKG_USING_UCLOUD_TLS` -/
  usingTls : Bool

/-- `utils_network_t` -/
structure UtilsNetwork where
  hostAddress : List UInt8
  port : UInt16
  handle : NetHandle
  deriving DecidableEq, Repr

variable {ν : Type} (transport : Transport ν)

/-- `utils_net_connect` -/
def utilsNetConnect (net : UtilsNetwork) (s : ν) : Int × UtilsNetwork × ν :=
  let (handle, s) := transport.connect s net.hostAddress net.port
  let failed := if transport.usingTls then NetHandle.zero else .minusOne
  (if handle = failed then failureRet else successRet, { net with handle := handle }, s)

/-- `utils_net_disconnect` -/
def utilsNetDisconnect (net : UtilsNetwork) (s : ν) : UtilsNetwork × ν :=
  let s := transport.disconnect s net.handle
  ({ net with handle := if transport.usingTls then .zero else .minusOne }, s)

/-! ## Strings in buffers -/

inductive Fault where
  /-- A byte outside of a buffer is read or written. -/
  | outside
  /-- An object is used through a null pointer, or after it is released. -/
  | pointer
  /-- A division by zero, or a signed overflow. -/
  | arithmetic
  /-- A variable is read that nothing is stored in. -/
  | indeterminate
  /-- The call has not returned. -/
  | unfinished
  deriving DecidableEq, Repr

abbrev Outcome (α : Type) := Except Fault α

/-- A call that returns has its parts return. -/
theorem bind_ok {α β : Type} {first : Outcome α} {second : α → Outcome β} {result : β}
    (returns : first >>= second = .ok result) :
    ∃ value, first = .ok value ∧ second value = .ok result := by
  cases first with
  | error fault => exact (nomatch returns)
  | ok value => exact ⟨value, rfl, returns⟩

/-- The string at an offset of a buffer. -/
def cStringAt (buf : List UInt8) (offset : Nat) : Outcome Cursor :=
  if 0 ∈ buf.drop offset then .ok ((buf.drop offset).takeWhile (· ≠ 0)) else .error .outside

/-- Storing bytes at an offset of a buffer. -/
def store (buf : List UInt8) (offset : Nat) (bytes : List UInt8) : Outcome (List UInt8) :=
  if offset + bytes.length ≤ buf.length then .ok (overwrite buf offset bytes) else .error .outside

/-- `strstr`: where the needle is first. -/
def strstr (needle : List UInt8) : Cursor → Option Nat
  | [] => if needle = [] then some 0 else none
  | byte :: rest =>
      if needle.isPrefixOf (byte :: rest) then some 0 else (strstr needle rest).map (· + 1)

/-- `isspace` -/
def isSpace (byte : UInt8) : Bool := byte = space || (0x09 ≤ byte && byte ≤ 0x0D)

/-- Whether the number behind leading blanks is negative, and its digits. -/
def signedDigits (text : Cursor) : Bool × List UInt8 :=
  match text.dropWhile isSpace with
  | 0x2D :: rest => (true, rest.takeWhile isDigit)
  | 0x2B :: rest => (false, rest.takeWhile isDigit)
  | text => (false, text.takeWhile isDigit)

def digitsValue (digits : List UInt8) : Nat :=
  digits.foldl (fun n byte => 10 * n + (byte.toNat - 0x30)) 0

/-- `atoi`, which is `strtol` in base 10: a number out of range becomes the
nearest one in range. -/
def atoi (text : Cursor) : Int :=
  let (negative, digits) := signedDigits text
  let n : Int := digitsValue digits
  max (-2 ^ 31) (min (2 ^ 31 - 1) (if negative then -n else n))

example : atoi (literal " -17 bytes") = -17 := by decide

/-! ## Requests -/

abbrev httpClientReadBufSize : Nat := 1024
abbrev httpClientReadHeadSize : Nat := 32
abbrev httpClientSendBufSize : Nat := 1024
abbrev httpClientRequestBufSize : Nat := 300
abbrev httpClientMaxUrlLen : Nat := 256
abbrev httpClientChunkSize : Nat := 1024
abbrev httpRetrieveMoreData : Int := 1
abbrev minTimeout : Int := 100
abbrev maxRetryCount : Nat := 600

/-- `HTTP_Request_Method` -/
inductive HttpRequestMethod where
  | get
  | post
  | put
  | delete
  | head
  deriving DecidableEq, Repr

/-- `http_client_t` -/
structure HttpClient where
  net : UtilsNetwork
  responseCode : Int
  header : Option (List UInt8)
  deriving DecidableEq, Repr

/-- `http_client_data_t`; a buffer stands for what it points to. -/
structure HttpClientData where
  isMore : Bool
  isChunked : Bool
  retrieveLen : Int
  responseContentLen : Int
  responseReceivedLen : Int
  postBufLen : Int
  responseBufLen : Int
  postContentType : Option (List UInt8)
  postBuf : Option (List UInt8)
  responseBuf : Option (List UInt8)
  deriving DecidableEq, Repr

/-- `_utils_parse_url` into two buffers of `HTTP_CLIENT_MAX_URL_LEN` bytes: the
code, the host and the path. -/
def utilsParseUrl (url : Cursor) : Outcome (Int × List UInt8 × List UInt8) :=
  match strstr (literal "://") url with
  | none => .ok (errParamInvalid, [], [])
  | some i =>
      let hostPtr := url.drop (i + 3)
      match strchr 0x2F hostPtr with
      | none => .ok (errParamInvalid, [], [])
      | some pathPtr =>
          let hostLen := hostPtr.length - pathPtr.length
          -- the fragment may be in front of the path
          let pathLen : Int :=
            match strchr 0x23 hostPtr with
            | some fragmentPtr => pathPtr.length - fragmentPtr.length
            | none => pathPtr.length
          if httpClientMaxUrlLen ≤ hostLen ∨ pathLen < 0 ∨ (httpClientMaxUrlLen : Int) ≤ pathLen then
            .error .outside
          else .ok (successRet, hostPtr.take hostLen, pathPtr.take pathLen.toNat)

/-- The loop of `_utils_fill_tx_buffer`: the code, the buffer, the index and the
platform. A turn that does not end the loop takes a byte, so there are at most
`len + 1` turns. -/
def fillTxLoop : Nat → List UInt8 → Nat → List UInt8 → ν → Int × List UInt8 × Nat × ν
  | 0, sendBuf, idx, _, s => (successRet, sendBuf, idx, s)
  | turns + 1, sendBuf, idx, buf, s =>
      let piece := buf.take (httpClientSendBufSize - idx)
      let sendBuf := overwrite sendBuf idx piece
      let idx := idx + piece.length
      let buf := buf.drop piece.length
      if idx = httpClientSendBufSize then
        let (ret, s) := transport.write s sendBuf
        if ret < 0 then (ret, sendBuf, idx, s)
        else if ret ≠ httpClientSendBufSize then
          (if ret = 0 then errHttpClosed else errHttpConnError, sendBuf, idx, s)
        else if buf = [] then (successRet, sendBuf, 0, s)
        else fillTxLoop turns sendBuf 0 buf s
      else if buf = [] then (successRet, sendBuf, idx, s)
      else fillTxLoop turns sendBuf idx buf s

/-- `_utils_fill_tx_buffer`: the index is stored at the end only. -/
def utilsFillTxBuffer (sendBuf : List UInt8) (sendIdx : Nat) (buf : List UInt8) (s : ν) :
    Int × List UInt8 × Nat × ν :=
  let (ret, sendBuf, idx, s) := fillTxLoop transport (buf.length + 1) sendBuf sendIdx buf s
  (ret, sendBuf, if ret = successRet then idx else sendIdx, s)

def methodText : HttpRequestMethod → List UInt8
  | .get => literal "GET"
  | .post => literal "POST"
  | .put => literal "PUT"
  | .delete => literal "DELETE"
  | .head => literal "HEAD"

/-- `%d` of an unsigned number. -/
def formatUnsignedAsInt (n : UInt32) : List UInt8 := formatInt n.toInt32.toInt

/-- The request line, the host and the range. -/
def requestLines (host path : List UInt8) (method : HttpRequestMethod)
    (sizeFetched rangeLen : UInt32) : List UInt8 :=
  methodText method ++ literal " " ++ path ++ literal " HTTP/1.1\r\nHost: " ++ host ++
    literal "\r\n" ++
    if rangeLen ≠ 0 then
      literal "Range: bytes=" ++ formatUnsignedAsInt sizeFetched ++ literal "-" ++
        formatUnsignedAsInt (sizeFetched + rangeLen) ++ literal "\r\n"
    else []

/-- A line of a post's header, in the buffer of the request lines. -/
def postLine (name value : List UInt8) : List UInt8 :=
  (name ++ value ++ literal "\r\n").take (httpClientRequestBufSize - 1)

/-- `_http_send_header`: the codes of all but the first filling are not looked at. -/
def httpSendHeader (client : HttpClient) (host path : List UInt8) (method : HttpRequestMethod)
    (sizeFetched rangeLen : UInt32) (clientData : HttpClientData) (s : ν) : Int × ν :=
  let sendBuf := List.replicate httpClientSendBufSize 0
  let buf := (requestLines host path method sizeFetched rangeLen).take (httpClientRequestBufSize - 1)
  let (ret, sendBuf, len, s) := utilsFillTxBuffer transport sendBuf 0 buf s
  if ret < 0 then (errHttpConnError, s)
  else
    let add := fun (text : Option (List UInt8)) (filled : List UInt8 × Nat × ν) =>
      match text with
      | some text => (utilsFillTxBuffer transport filled.1 filled.2.1 text filled.2.2).2
      | none => filled
    let filled := add client.header (sendBuf, len, s)
    let filled := add (clientData.postBuf.map fun _ =>
      postLine (literal "Content-Length: ") (formatInt clientData.postBufLen)) filled
    let filled := add (clientData.postBuf.bind fun _ => clientData.postContentType.map
      (postLine (literal "Content-Type: "))) filled
    let (sendBuf, len, s) := add (some (literal "\r\n")) filled
    let (ret, s) := transport.write s (sendBuf.take len)
    (if ret ≤ 0 then if ret = 0 then errHttpClosed else errHttpConnError else successRet, s)

/-- `_http_send_user_data` -/
def httpSendUserData (clientData : HttpClientData) (s : ν) : Outcome (Int × ν) :=
  match clientData.postBuf with
  | some postBuf =>
      if clientData.postBufLen = 0 then return (successRet, s)
      else if clientData.postBufLen < 0 ∨ (postBuf.length : Int) < clientData.postBufLen then
        throw .outside
      else
        let (ret, s) := transport.write s (postBuf.take clientData.postBufLen.toNat)
        return (if ret ≤ 0 then if ret = 0 then errHttpClosed else errHttpConnError else successRet, s)
  | none => return (successRet, s)

/-- `_http_send_request` -/
def httpSendRequest (client : HttpClient) (url : Cursor) (method : HttpRequestMethod)
    (sizeFetched rangeLen : UInt32) (clientData : HttpClientData) (s : ν) :
    Outcome (Int × ν) := do
  if client.net.handle = .zero then return (-1, s)
  else
    let (rc, host, path) ← utilsParseUrl url
    if rc ≠ successRet then return (rc, s)
    else
      let (ret, s) :=
        httpSendHeader transport client host path method sizeFetched rangeLen clientData s
      if ret ≠ 0 then return (errHttpConnError, s)
      else if method = .post ∨ method = .put then
        let (ret, s) ← httpSendUserData transport clientData s
        return (if ret < 0 then errHttpConnError else ret, s)
      else return (ret, s)

/-! ## Connections -/

/-- The iterations of `_http_connect` that are left. -/
def httpConnectLoop : Nat → UtilsNetwork → ν → UtilsNetwork × ν
  | 0, net, s => (net, s)
  | left + 1, net, s =>
      let (rc, net, s) := utilsNetConnect transport { net with handle := .zero } s
      if rc ≠ 0 then
        let (net, s) := utilsNetDisconnect transport net s
        httpConnectLoop left net s
      else (net, s)

/-- `_http_connect`: it succeeds also where no iteration does. -/
def httpConnect (client : HttpClient) (s : ν) : Int × HttpClient × ν :=
  let (net, s) := httpConnectLoop transport 3 client.net s
  (successRet, { client with net := net }, s)

/-- `http_client_close` -/
def httpClientClose (client : HttpClient) (s : ν) : HttpClient × ν :=
  let (net, s) :=
    if client.net.handle ≠ .zero then utilsNetDisconnect transport client.net s else (client.net, s)
  ({ client with net := { net with handle := .zero } }, s)

/-- `http_client_connect`, with `utils_net_init`, which succeeds. -/
def httpClientConnect (client : HttpClient) (url : Cursor) (port : UInt16) (s : ν) :
    Outcome (Int × HttpClient × ν) := do
  if client.net.handle ≠ .zero then return (errHttpConnError, client, s)
  else
    let (rc, host, _) ← utilsParseUrl url
    if rc ≠ successRet then return (rc, client, s)
    else
      let client := { client with net := { hostAddress := host, port := port, handle := .zero } }
      let (rc, client, s) := httpConnect transport client s
      if rc ≠ successRet then
        let (client, s) := httpClientClose transport client s
        return (rc, client, s)
      else return (rc, client, s)

/-- `http_client_common` -/
def httpClientCommon (client : HttpClient) (url : Cursor) (port : UInt16) (method : HttpRequestMethod)
    (clientData : HttpClientData) (s : ν) : Outcome (Int × HttpClient × ν) := do
  let (rc, client, s) ←
    if client.net.handle = .zero then httpClientConnect transport client url port s
    else return (successRet, client, s)
  if rc ≠ successRet then return (rc, client, s)
  else
    let (rc, s) ← httpSendRequest transport client url method 0 0 clientData s
    if rc ≠ successRet then
      let (client, s) := httpClientClose transport client s
      return (rc, client, s)
    else return (successRet, client, s)

/-! ## Responses -/

/-- `_http_recv`: the code, the number of bytes, the bytes and the platform. -/
def httpRecv (maxLen : Nat) (s : ν) : Int × Nat × List UInt8 × ν :=
  let (ret, bytes, s) := transport.read s maxLen
  if 0 < ret then (0, ret.toNat, bytes, s)
  else if ret = 0 then (failureRet, 0, bytes, s)
  else (errHttpConnError, 0, bytes, s)

/-- The timer and the two counters of a download's loop. -/
structure DeadloopCounts where
  timer : Timer
  deadLoopCount : Nat
  extendCount : Nat
  deriving DecidableEq, Repr

/-- `_utils_check_deadloop` -/
def utilsCheckDeadloop (len : Nat) (ret : Int) (counts : DeadloopCounts) (s : ν) :
    Int × DeadloopCounts × ν :=
  let (now, s) := transport.tick s
  let (counts, s) :=
    if leftMs counts.timer now < minTimeout then
      let (now, s) := transport.tick s
      ({ counts with
          extendCount := counts.extendCount + 1
          timer := countdownMs transport.rtTickFromMillisecond now 100 }, s)
    else (counts, s)
  -- the timer is looked at again where nothing has come
  let (out, s) :=
    if len = 0 then
      let (now, s) := transport.tick s
      (decide (leftMs counts.timer now = 0), s)
    else (false, s)
  if len = 0 ∧ out ∧ ret = failureRet then
    let counts := { counts with deadLoopCount := counts.deadLoopCount + 1 }
    if maxRetryCount < counts.deadLoopCount then (errHttpConnError, counts, s)
    else if 2 * maxRetryCount < counts.extendCount then (errHttpConnError, counts, s)
    else (successRet, counts, s)
  else
    let counts := { counts with deadLoopCount := 0 }
    if len = 0 ∧ 2 * maxRetryCount < counts.extendCount ∧ ret = failureRet then
      (errHttpConnError, counts, s)
    else (successRet, counts, s)

/-- Copying `n` bytes to `recvCount`, and a terminator to `last`. -/
def copyToResponse (responseBuf data : List UInt8) (recvCount n last : Int) :
    Outcome (List UInt8) := do
  if n < 0 ∨ (data.length : Int) < n ∨ recvCount < 0 ∨ last < 0 then throw .outside
  else
    let responseBuf ← store responseBuf recvCount.toNat (data.take n.toNat)
    store responseBuf last.toNat [0]

/-- `_utils_fill_rx_buf`: the code, the count and the data of the client. -/
def utilsFillRxBuf (recvCount len : Int) (clientData : HttpClientData) (data : List UInt8) :
    Outcome (Int × Int × HttpClientData) := do
  let responseBuf := clientData.responseBuf.getD []
  if recvCount + len < clientData.responseBufLen - 1 then
    let responseBuf ← copyToResponse responseBuf data recvCount len (recvCount + len)
    return (successRet, recvCount + len, { clientData with
      responseBuf := some responseBuf
      retrieveLen := clientData.retrieveLen - len })
  else
    let rest := clientData.responseBufLen - 1 - recvCount
    let responseBuf ← copyToResponse responseBuf data recvCount rest (clientData.responseBufLen - 1)
    return (httpRetrieveMoreData, recvCount, { clientData with
      responseBuf := some responseBuf
      retrieveLen := clientData.retrieveLen - rest })

/-- The loops of `_http_get_response_body`, of which the outer one takes one turn:
`dataLen` bytes of `data` are to be moved, behind `written` ones. -/
def responseBodyLoop : Nat → List UInt8 → Nat → Int → DeadloopCounts → HttpClientData → ν →
    Outcome (Int × HttpClientData × ν)
  | 0, _, _, _, _, _, _ => throw .unfinished
  | turns + 1, data, dataLen, written, counts, clientData, s => do
      let (res, written, clientData) ←
        utilsFillRxBuf written (min dataLen clientData.retrieveLen) clientData data
      if res = httpRetrieveMoreData then return (httpRetrieveMoreData, clientData, s)
      else if clientData.retrieveLen = 0 then
        return (successRet, { clientData with isMore := false }, s)
      else
        let room : Int := min (httpClientChunkSize - 1 : Nat) (clientData.responseBufLen - 1 - written)
        let maxLen := min room clientData.retrieveLen
        if maxLen < 0 then throw .outside
        else
          let (ret, dataLen, bytes, s) := httpRecv transport maxLen.toNat s
          let data ← store data 0 bytes
          if ret = errHttpConnError then return (ret, clientData, s)
          else
            let (ret, counts, s) := utilsCheckDeadloop transport dataLen ret counts s
            if ret = errHttpConnError then return (ret, clientData, s)
            else responseBodyLoop turns data dataLen written counts clientData s

/-- `_http_get_response_body` -/
def httpGetResponseBody (turns : Nat) (data : List UInt8) (dataLen : Nat) (timeoutMs : UInt32)
    (clientData : HttpClientData) (s : ν) : Outcome (Int × HttpClientData × ν) :=
  let (now, s) := transport.tick s
  let timer := countdownMs transport.rtTickFromMillisecond now timeoutMs
  let clientData := { clientData with isMore := true }
  if clientData.responseContentLen = -1 ∧ ¬clientData.isChunked then
    return (errHttpConnError, clientData, s)
  else responseBodyLoop transport turns data dataLen 0 ⟨timer, 0, 0⟩ clientData s

/-- The loop of `_http_parse_response_header` that reads on until the end of the
header: the code, where the end is, the buffer and the bytes in it. -/
def headerLoop : Nat → List UInt8 → Nat → ν → Outcome (Int × Nat × List UInt8 × Nat × ν)
  | 0, _, _, _ => throw .unfinished
  | turns + 1, data, len, s => do
      let text ← cStringAt data 0
      match strstr (literal "\r\n\r\n") text with
      | some bodyEnd => return (successRet, bodyEnd, data, len, s)
      | none =>
          let (ret, readLen, bytes, s) := httpRecv transport httpClientReadHeadSize s
          let data ← store data len bytes
          if ret = errHttpConnError then return (ret, 0, data, len, s)
          else
            let data ← store data (len + readLen) [0]
            headerLoop turns data (len + readLen) s

/-- `memmove(data, data + offset, count)` -/
def moveToFront (data : List UInt8) (offset count : Nat) : Outcome (List UInt8) :=
  if offset + count ≤ data.length then store data 0 ((data.drop offset).take count)
  else throw .outside

/-- `_http_parse_response_header` behind the loop: the length of the content, and
what of the body is there already. -/
def parseContent (turns : Nat) (bodyEnd : Nat) (data : List UInt8) (len : Nat) (timeoutMs : UInt32)
    (clientData : HttpClientData) (s : ν) : Outcome (Int × HttpClientData × ν) := do
  let text ← cStringAt data 0
  match strstr (literal "Content-Length") text with
  | none => return (errHttpConnError, clientData, s)
  | some i =>
      let number ← cStringAt data (i + (literal "Content-Length: ").length)
      let data ← moveToFront data (bodyEnd + 4) (len - (bodyEnd + 4) + 1)
      let len := len - (bodyEnd + 4)
      let clientData := { clientData with
        responseContentLen := atoi number
        retrieveLen := atoi number
        responseReceivedLen := clientData.responseReceivedLen + len }
      httpGetResponseBody transport turns data len timeoutMs clientData s

/-- `_http_parse_response_header` -/
def httpParseResponseHeader (turns : Nat) (client : HttpClient) (data : List UInt8) (len : Nat)
    (timeoutMs : UInt32) (clientData : HttpClientData) (s : ν) :
    Outcome (Int × HttpClient × HttpClientData × ν) := do
  let clientData := { clientData with responseContentLen := -1 }
  let text ← cStringAt data 0
  match strstr (literal "\r\n") text with
  | none => return (errHttpUnresolvedDns, client, clientData, s)
  | some crlfPos =>
      let data ← store data crlfPos [0]
      let status ← cStringAt data 9
      let client := { client with responseCode := atoi status }
      let data ← moveToFront data (crlfPos + 2) (len - (crlfPos + 2) + 1)
      let clientData := { clientData with isChunked := false }
      let (ret, bodyEnd, data, len, s) ← headerLoop transport turns data (len - (crlfPos + 2)) s
      if ret ≠ successRet then return (ret, client, clientData, s)
      else
        let (ret, clientData, s) ← parseContent transport turns bodyEnd data len timeoutMs clientData s
        return (ret, client, clientData, s)

/-- `_http_client_recv_response` -/
def httpClientRecvResponse (turns : Nat) (client : HttpClient) (timeoutMs : UInt32)
    (clientData : HttpClientData) (s : ν) : Outcome (Int × HttpClient × HttpClientData × ν) := do
  let buf := List.replicate httpClientReadBufSize 0
  if client.net.handle = .zero then return (errHttpConnError, client, clientData, s)
  else if clientData.isMore then
    let responseBuf ← store (clientData.responseBuf.getD []) 0 [0]
    let (ret, clientData, s) ← httpGetResponseBody transport turns buf 0 timeoutMs
      { clientData with responseBuf := some responseBuf } s
    return (ret, client, clientData, s)
  else
    let clientData := { clientData with isMore := true }
    let (ret, readLen, bytes, s) := httpRecv transport httpClientReadHeadSize s
    let buf ← store buf 0 bytes
    if ret ≠ 0 then return (ret, client, clientData, s)
    else
      let buf ← store buf readLen [0]
      if readLen ≠ 0 then
        httpParseResponseHeader transport turns client buf readLen timeoutMs clientData s
      else return (ret, client, clientData, s)

/-- `http_client_recv_data` -/
def httpClientRecvData (turns : Nat) (client : HttpClient) (timeoutMs : UInt32)
    (clientData : HttpClientData) (s : ν) : Outcome (Int × HttpClient × HttpClientData × ν) := do
  if clientData.responseBuf.isSome ∧ clientData.responseBufLen ≠ 0 then
    let (rc, client, clientData, s) ←
      httpClientRecvResponse transport turns client timeoutMs clientData s
    if rc < 0 then
      let (client, s) := httpClientClose transport client s
      return (rc, client, clientData, s)
    else return (successRet, client, clientData, s)
  else return (successRet, client, clientData, s)

end UIoT.Utils
