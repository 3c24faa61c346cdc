import UIoT.Utils.HexCodec
import UIoT.Utils.Httpc
import UIoT.Utils.Md5

/-!
# Tokens, upload URLs and uploads

`IOT_HTTP_Get_Token`, `IOT_GET_URL_AND_AUTH` and `IOT_HTTP_UPLOAD_FILE`. The first two post a signed
request and copy values of the response into buffers of the caller; the third puts a buffer. A buffer of
the caller stands for the memory behind its start, so no value is too long for it.
-/

set_option autoImplicit false

namespace UIoT.Http

open Utils

variable {ν : Type}

/-! ## Requests -/

/-- `HAL_Snprintf` into 1024 bytes. -/
def snprintf1024 (text : List UInt8) : List UInt8 := text.take 1023

/-- A client that is not connected. -/
def newClient (header : List UInt8) : HttpClient where
  net := { hostAddress := [], port := 0, handle := .zero }
  responseCode := 0
  header := some header

/-- The data of a request, with a buffer for the response. -/
def newData (contentType : List UInt8) (postBuf : List UInt8) (postBufLen : Int) (responseBufLen : Nat) :
    HttpClientData where
  isMore := false
  isChunked := false
  retrieveLen := 0
  responseContentLen := 0
  responseReceivedLen := 0
  postBufLen := postBufLen
  responseBufLen := responseBufLen
  postContentType := some contentType
  postBuf := some postBuf
  responseBuf := some (List.replicate responseBufLen 0)

/-- A text of at most 1023 bytes that is posted, in a buffer of 1024. -/
def jsonData (text : List UInt8) : HttpClientData :=
  newData (literal "application/json") (text ++ List.replicate (1024 - text.length) 0) text.length 1024

/-- `mac_output_char` -/
def signature (hmacSha256 : List UInt8 → List UInt8 → List UInt8) (postBuf deviceSecret : List UInt8) :
    List UInt8 :=
  liteHexbufConvert (hmacSha256 postBuf deviceSecret) 32 false

/-- A request and its response: the code of the first step that fails, or the text in `response_buf`. -/
def requestAndReceive (transport : Transport ν) (turns : Nat) (client : HttpClient) (url : List UInt8)
    (method : HttpRequestMethod) (clientData : HttpClientData) (timeoutMs : UInt32) (s : ν) :
    Outcome (Int × List UInt8 × HttpClient × ν) := do
  let (ret, client, s) ← httpClientCommon transport client url 443 method clientData s
  if ret ≠ successRet then return (ret, [], client, s)
  else
    let (ret, client, clientData, s) ← httpClientRecvData transport turns client timeoutMs clientData s
    if ret ≠ successRet then return (ret, [], client, s)
    else
      let response ← cStringAt (clientData.responseBuf.getD []) 0
      return (successRet, response, client, s)

/-! ## Values -/

/-- `strncpy` of at most `n` bytes: those in front of a NUL, and NULs up to `n`. -/
def strncpyBytes (src : List UInt8) (n : Nat) : List UInt8 :=
  let text := (src.take n).takeWhile (· ≠ 0)
  text ++ List.replicate (n - text.length) 0

/-- Storing bytes at the start of a buffer of the caller. -/
def storeFront (buf : Nat → UInt8) (bytes : List UInt8) (i : Nat) : UInt8 := bytes.getD i (buf i)

/-- The string that `LITE_json_value_of` returns. -/
def valueText (key response : List UInt8) : Option (List UInt8) :=
  (liteJsonValueOf key response).map fun value => value.takeWhile (· ≠ 0)

/-- A value is copied by its length, and a terminator is stored behind the byte that follows it. -/
def copyValue (buf : Nat → UInt8) (value : List UInt8) : Nat → UInt8 :=
  Function.update (storeFront buf (strncpyBytes value value.length)) (value.length + 1) 0

/-- The values of these fields are copied to these buffers, up to the first one that is missing. -/
def copyValues (response : List UInt8) : List (List UInt8 × (Nat → UInt8)) → List (Nat → UInt8)
  | [] => []
  | (key, buf) :: outputs =>
      match valueText key response with
      | none => buf :: outputs.map Prod.snd
      | some temp => copyValue buf temp :: copyValues response outputs

/-- What `IOT_HTTP_Get_Token` and `IOT_GET_URL_AND_AUTH` do around their request: the code, the buffers
of the caller and the platform. `malloc` says whether their allocations succeed. A value that is missing
does not change the code. -/
def fetchValues (transport : Transport ν) (malloc : Bool)
    (exchange : Outcome (Int × List UInt8 × HttpClient × ν))
    (outputs : List (List UInt8 × (Nat → UInt8))) (s : ν) : Outcome (Int × List (Nat → UInt8) × ν) := do
  if !malloc then return (failureRet, outputs.map Prod.snd, s)
  else
    let (ret, response, client, s) ← exchange
    let bufs := if ret ≠ successRet then outputs.map Prod.snd else copyValues response outputs
    let (_, s) := httpClientClose transport client s
    return (ret, bufs, s)

/-! ### `IOT_HTTP_Get_Token` -/

def tokenPostBuf (productSn deviceSn : List UInt8) : List UInt8 :=
  snprintf1024 (literal "\x7b\"ProductSN\":\"" ++ productSn ++ literal "\",\"DeviceSN\":\"" ++ deviceSn ++
    literal "\"\x7d")

def tokenHeader (mac postBuf : List UInt8) : List UInt8 :=
  snprintf1024 (literal "Content-Type: application/json\r\nAuthorization: " ++ mac ++
    literal "\r\nbody: " ++ postBuf ++ literal "\r\n")

def tokenUrl : List UInt8 := literal "https://http-cn-sh2.iot.ucloud.cn/auth"

def tokenField : List UInt8 := literal "Token"

section Token

variable (transport : Transport ν) (hmacSha256 : List UInt8 → List UInt8 → List UInt8) (turns : Nat)
  (productSn deviceSn deviceSecret : List UInt8)

/-- The request for a token and its response. -/
def tokenExchange (s : ν) : Outcome (Int × List UInt8 × HttpClient × ν) :=
  let postBuf := tokenPostBuf productSn deviceSn
  let header := tokenHeader (signature hmacSha256 postBuf deviceSecret) postBuf
  requestAndReceive transport turns (newClient header) tokenUrl .post (jsonData postBuf) 5000 s

/-- `IOT_HTTP_Get_Token` -/
def iotHttpGetToken (malloc : Bool) (token : Nat → UInt8) (s : ν) :
    Outcome (Int × List (Nat → UInt8) × ν) :=
  fetchValues transport malloc
    (tokenExchange transport hmacSha256 turns productSn deviceSn deviceSecret s) [(tokenField, token)] s

end Token

/-! ### `IOT_GET_URL_AND_AUTH` -/

/-- A file that is to be uploaded, as the request for its URL has it. -/
structure UploadInfo where
  productSn : List UInt8
  deviceSn : List UInt8
  deviceSecret : List UInt8
  fileName : List UInt8
  uploadBufferLen : UInt32
  md5 : List UInt8

def urlPostBuf (info : UploadInfo) : List UInt8 :=
  snprintf1024 (literal "\x7b\"ProductSN\":\"" ++ info.productSn ++ literal "\",\"DeviceSN\":\"" ++
    info.deviceSn ++ literal "\",\"FileName\":\"" ++ info.fileName ++ literal "\",\"FileSize\":" ++
    formatUnsignedAsInt info.uploadBufferLen ++ literal ",\"MD5\":\"" ++ info.md5 ++
    literal "\",\"Content-Type\":\"plain/text\"\x7d")

def urlHeader (mac : List UInt8) : List UInt8 :=
  snprintf1024 (literal "Content-Type: application/json\r\nAuthorization:" ++ mac ++ literal "\r\n")

def fileUrl : List UInt8 := literal "https://file-cn-sh2.iot.ucloud.cn/api/v1/url"

def authorizationField : List UInt8 := literal "Authorization"

def urlField : List UInt8 := literal "URL"

section UrlAndAuth

variable (transport : Transport ν) (hmacSha256 : List UInt8 → List UInt8 → List UInt8) (turns : Nat)
  (info : UploadInfo)

/-- The request for a URL and its response. -/
def urlExchange (s : ν) : Outcome (Int × List UInt8 × HttpClient × ν) :=
  let postBuf := urlPostBuf info
  let header := urlHeader (signature hmacSha256 postBuf info.deviceSecret)
  requestAndReceive transport turns (newClient header) fileUrl .post (jsonData postBuf) 5000 s

/-- `IOT_GET_URL_AND_AUTH` -/
def iotGetUrlAndAuth (malloc : Bool) (authorization putUrl : Nat → UInt8) (s : ν) :
    Outcome (Int × List (Nat → UInt8) × ν) :=
  fetchValues transport malloc (urlExchange transport hmacSha256 turns info s)
    [(authorizationField, authorization), (urlField, putUrl)] s

end UrlAndAuth

/-! ## Uploads -/

/-- The bytes of a buffer of the caller. -/
def bytesOf (buf : Nat → UInt8) (len : UInt32) : List UInt8 := (List.range len.toNat).map buf

def uploadHeader (authorization md5 : List UInt8) : List UInt8 :=
  snprintf1024 (literal "Authorization:" ++ authorization ++ literal "\r\nContent-Type:plain/text\r\n" ++
    literal "Content-MD5:" ++ md5 ++ literal "\r\n")

/-- The data of an upload, in `upload_buffer_len + 1` bytes: none where that is 0 in 32 bits. -/
def uploadData (uploadBuffer : Nat → UInt8) (uploadBufferLen : UInt32) : Outcome HttpClientData :=
  if uploadBufferLen + 1 = 0 then throw .outside
  else
    let postBuf := strncpyBytes (bytesOf uploadBuffer uploadBufferLen) uploadBufferLen.toNat ++ [0]
    return newData (literal "plain/text") postBuf uploadBufferLen.toInt32.toInt 512

/-- `IOT_HTTP_UPLOAD_FILE` -/
def iotHttpUploadFile (transport : Transport ν) (turns : Nat) (malloc : Bool) (uploadBuffer : Nat → UInt8)
    (uploadBufferLen : UInt32) (md5 authorization url : List UInt8) (timeoutMs : UInt32) (s : ν) :
    Outcome (Int × ν) := do
  if !malloc then return (failureRet, s)
  else
    let clientData ← uploadData uploadBuffer uploadBufferLen
    let (ret, _, client, s) ← requestAndReceive transport turns (newClient (uploadHeader authorization md5))
      url .put clientData timeoutMs s
    let (_, s) := httpClientClose transport client s
    return (ret, s)

/-- `http_client_buffer_md5` -/
def httpClientBufferMd5 (buffer : Nat → UInt8) (bufferLen : UInt32) : List UInt8 :=
  (utilsMd5FinishHb2Hex (utilsMd5Update utilsMd5Starts (bytesOf buffer bufferLen))).1

end UIoT.Http
