import UIoT.Http.Client
import UIoT.Utils.Hmac

/-!
# Signed requests

The field `Authorization` of the requests for a token and for a URL is the keyed digest of the body under
the secret of the device. The digest is made into an array that is zero, so a secret longer than a block
signs with zeros: whatever the secret is, the request is the same (`requests_signed`).
-/

set_option autoImplicit false

namespace UIoT.Http

open Utils

variable {ν : Type}

/-- `mac_output_hex` behind the call of `utils_hmac_sha256`. -/
def macOutputHex (postBuf deviceSecret : List UInt8) : List UInt8 :=
  utilsHmacSha256 (some postBuf) (some deviceSecret) (List.replicate 32 0)

/-- The keyed digest that the server expects. -/
def expectedMac (postBuf deviceSecret : List UInt8) : List UInt8 :=
  Sha256.hmac Sha256.hash 64 deviceSecret postBuf

theorem macOutputHex_eq {postBuf : List UInt8} (short : postBuf.length ≤ 1023)
    (deviceSecret : List UInt8) :
    macOutputHex postBuf deviceSecret =
      if deviceSecret.length ≤ 64 then expectedMac postBuf deviceSecret else List.replicate 32 0 := by
  have room : (List.replicate 32 (0 : UInt8)).length = 32 := List.length_replicate
  rw [macOutputHex, utilsHmacSha256_eq _ _ (by omega) room, expectedMac]

theorem snprintf1024_length (text : List UInt8) : (snprintf1024 text).length ≤ 1023 :=
  List.length_take_le _ _

/-- The signature of a body under a secret of at most a block, and under a longer one. -/
theorem signature_eq {postBuf : List UInt8} (short : postBuf.length ≤ 1023) (deviceSecret : List UInt8) :
    signature macOutputHex postBuf deviceSecret =
      if deviceSecret.length ≤ 64 then signature expectedMac postBuf deviceSecret
      else List.replicate 64 0x30 := by
  rw [signature, macOutputHex_eq short]
  split
  · rfl
  · rfl

/-- A request under a secret of at most 64 bytes carries the keyed digest of its body, and any two
secrets that are longer make the same request. -/
theorem requests_signed (transport : Transport ν) (turns : Nat) (productSn deviceSn deviceSecret : List UInt8)
    (info : UploadInfo) (s : ν) :
    (deviceSecret.length ≤ 64 →
      tokenExchange transport macOutputHex turns productSn deviceSn deviceSecret s =
          tokenExchange transport expectedMac turns productSn deviceSn deviceSecret s ∧
        urlExchange transport macOutputHex turns { info with deviceSecret := deviceSecret } s =
          urlExchange transport expectedMac turns { info with deviceSecret := deviceSecret } s) ∧
    (64 < deviceSecret.length → ∀ other : List UInt8, 64 < other.length →
      tokenExchange transport macOutputHex turns productSn deviceSn deviceSecret s =
          tokenExchange transport macOutputHex turns productSn deviceSn other s ∧
        urlExchange transport macOutputHex turns { info with deviceSecret := deviceSecret } s =
          urlExchange transport macOutputHex turns { info with deviceSecret := other } s) := by
  have token := signature_eq (snprintf1024_length (literal "\x7b\"ProductSN\":\"" ++ productSn ++
    literal "\",\"DeviceSN\":\"" ++ deviceSn ++ literal "\"\x7d"))
  have url : ∀ secret, signature macOutputHex (urlPostBuf info) secret =
      if secret.length ≤ 64 then signature expectedMac (urlPostBuf info) secret
      else List.replicate 64 0x30 :=
    signature_eq (snprintf1024_length _)
  have samePostBuf : ∀ secret, urlPostBuf { info with deviceSecret := secret } = urlPostBuf info :=
    fun _ => rfl
  constructor
  · intro fits
    constructor
    · rw [tokenExchange, tokenExchange, tokenPostBuf, token, if_pos fits]
    · rw [urlExchange, urlExchange, samePostBuf, url, if_pos fits]
  · intro long other otherLong
    constructor
    · rw [tokenExchange, tokenExchange, tokenPostBuf, token, token, if_neg (Nat.not_le.mpr long),
        if_neg (Nat.not_le.mpr otherLong)]
    · rw [urlExchange, urlExchange, samePostBuf deviceSecret, samePostBuf other]
      dsimp only
      rw [url deviceSecret, url other, if_neg (Nat.not_le.mpr long), if_neg (Nat.not_le.mpr otherLong)]

end UIoT.Http
