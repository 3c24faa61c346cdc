import Mathlib.Data.List.TakeWhile
import UIoT.Http.Client

/-!
# Values of a response in the buffers of a caller

A value is copied without its terminator, and the terminator that is stored behind it leaves out the
byte in between: the buffer holds the value just if that byte was 0 before (`copyValue_holds_iff`). A
value that is not found leaves the code of the last step that was made, which succeeded. So the calls
keep their promise exactly where the request fails, or each value is found and the byte at its length
was 0 (`getsValues_iff`).
-/

set_option autoImplicit false

namespace UIoT.Http

open Utils

variable {ν : Type}

/-! ## One value -/

/-- A buffer of the caller holds this string. -/
def HoldsString (buf : Nat → UInt8) (text : List UInt8) : Prop := BeginsWith buf (text ++ [0])

/-- Text that has no zero byte is copied whole. -/
theorem strncpyBytes_text {text : List UInt8} (noZero : 0 ∉ text) :
    strncpyBytes text text.length = text := by
  have whole : text.takeWhile (· ≠ 0) = text := by
    apply List.takeWhile_eq_self_iff.mpr
    intro byte among
    rw [decide_eq_true_eq]
    rintro rfl
    exact noZero among
  rw [strncpyBytes, List.take_length, whole, Nat.sub_self, List.replicate_zero, List.append_nil]

theorem valueText_noZero {key response text : List UInt8} (isText : valueText key response = some text) :
    0 ∉ text := by
  rw [valueText, Option.map_eq_some_iff] at isText
  obtain ⟨value, -, rfl⟩ := isText
  intro among
  have kept := List.mem_takeWhile_imp among
  exact absurd rfl (of_decide_eq_true kept)

theorem copyValue_of_lt (buf : Nat → UInt8) {text : List UInt8} (noZero : 0 ∉ text) {i : Nat}
    (inside : i < text.length) : copyValue buf text i = text[i] := by
  have notLast : i ≠ text.length + 1 := by omega
  rw [copyValue, Function.update_of_ne notLast, storeFront, strncpyBytes_text noZero]
  exact (List.getElem_eq_getD (buf i)).symm

/-- The byte behind the value is the one that was there. -/
theorem copyValue_length (buf : Nat → UInt8) {text : List UInt8} (noZero : 0 ∉ text) :
    copyValue buf text text.length = buf text.length := by
  have notLast : text.length ≠ text.length + 1 := Nat.ne_of_lt (Nat.lt_succ_self _)
  rw [copyValue, Function.update_of_ne notLast, storeFront, strncpyBytes_text noZero]
  rw [List.getD_eq_getElem?_getD, List.getElem?_eq_none (Nat.le_refl _)]
  rfl

theorem copyValue_holds_iff (buf : Nat → UInt8) {text : List UInt8} (noZero : 0 ∉ text) :
    HoldsString (copyValue buf text) text ↔ buf text.length = 0 := by
  have length : (text ++ [0]).length = text.length + 1 := by
    rw [List.length_append, List.length_singleton]
  constructor
  · intro holds
    have last := holds text.length (by omega)
    rwa [copyValue_length buf noZero, List.getElem_concat_length rfl] at last
  · intro ended i inside
    rw [length] at inside
    rcases Nat.lt_succ_iff_lt_or_eq.mp inside with before | rfl
    · rw [copyValue_of_lt buf noZero before, List.getElem_append_left]
    · rw [copyValue_length buf noZero, List.getElem_concat_length rfl]
      exact ended

example : ¬HoldsString (copyValue (fun _ => 0x7A) (literal "ab")) (literal "ab") := by
  rw [copyValue_holds_iff _ (by decide)]
  decide

/-! ## All values -/

/-- A buffer holds the value of a field. -/
def HoldsValue (response : List UInt8) (output : List UInt8 × (Nat → UInt8)) (buf : Nat → UInt8) : Prop :=
  ∃ text, valueText output.1 response = some text ∧ HoldsString buf text

/-- A value is found, and the byte at its length ends it. -/
def Ends (response : List UInt8) (output : List UInt8 × (Nat → UInt8)) : Prop :=
  ∃ text, valueText output.1 response = some text ∧ output.2 text.length = 0

theorem copyValues_holds_iff (response : List UInt8) (outputs : List (List UInt8 × (Nat → UInt8))) :
    List.Forall₂ (HoldsValue response) outputs (copyValues response outputs) ↔
      ∀ output ∈ outputs, Ends response output := by
  induction outputs with
  | nil => exact iff_of_true .nil fun output among => absurd among List.not_mem_nil
  | cons output outputs inductionHypothesis =>
      obtain ⟨key, buf⟩ := output
      rw [List.forall_mem_cons, copyValues]
      cases isText : valueText key response with
      | none =>
          refine iff_of_false (fun holds => ?_) (fun ends => ?_)
          · cases holds with
            | cons first _ =>
                obtain ⟨text, found, -⟩ := first
                exact nomatch isText.symm.trans found
          · obtain ⟨text, found, -⟩ := ends.1
            exact nomatch isText.symm.trans found
      | some text =>
          have one : HoldsValue response (key, buf) (copyValue buf text) ↔ Ends response (key, buf) := by
            have copied := copyValue_holds_iff buf (valueText_noZero isText)
            constructor
            · rintro ⟨other, found, holds⟩
              cases isText.symm.trans found
              exact ⟨text, isText, copied.mp holds⟩
            · rintro ⟨other, found, ended⟩
              cases isText.symm.trans found
              exact ⟨text, isText, copied.mpr ended⟩
          rw [List.forall₂_cons, one, inductionHypothesis]

/-- A call that succeeds leaves the values of the response in the buffers, and one that does not find
them fails. -/
structure FetchesValues (transport : Transport ν) (malloc : Bool)
    (exchange : Outcome (Int × List UInt8 × HttpClient × ν))
    (outputs : List (List UInt8 × (Nat → UInt8))) (s : ν) : Prop where
  exact : ∀ ret bufs after, fetchValues transport malloc exchange outputs s = .ok (ret, bufs, after) →
    ret = successRet → ∃ response client s', exchange = .ok (successRet, response, client, s') ∧
      List.Forall₂ (HoldsValue response) outputs bufs
  missing : ∀ response client s', exchange = .ok (successRet, response, client, s') →
    (∃ output ∈ outputs, valueText output.1 response = none) →
    ∀ ret bufs after, fetchValues transport malloc exchange outputs s = .ok (ret, bufs, after) →
      ret ≠ successRet

/-- Where a response comes, each value is found in it, and ended by the buffer. -/
def AllEnd (malloc : Bool) (exchange : Outcome (Int × List UInt8 × HttpClient × ν))
    (outputs : List (List UInt8 × (Nat → UInt8))) : Prop :=
  malloc = true → ∀ response client s', exchange = .ok (successRet, response, client, s') →
    ∀ output ∈ outputs, Ends response output

section Fetch

variable {transport : Transport ν} {malloc : Bool}
  {exchange : Outcome (Int × List UInt8 × HttpClient × ν)} {outputs : List (List UInt8 × (Nat → UInt8))}
  {s s' after : ν} {ret : Int} {response : List UInt8} {client : HttpClient} {bufs : List (Nat → UInt8)}

theorem fetchValues_success (isExchange : exchange = .ok (successRet, response, client, s')) :
    fetchValues transport true exchange outputs s =
      .ok (successRet, copyValues response outputs, (httpClientClose transport client s').2) := by
  rw [isExchange]
  rfl

/-- A call that succeeds had a response. -/
theorem fetchValues_inv (returns : fetchValues transport malloc exchange outputs s = .ok (ret, bufs, after))
    (succeeds : ret = successRet) :
    malloc = true ∧ ∃ response client s', exchange = .ok (successRet, response, client, s') ∧
      bufs = copyValues response outputs := by
  subst succeeds
  cases malloc with
  | false => exact nomatch returns
  | true =>
      rcases exchange with fault | ⟨ret, response, client, s'⟩
      · exact nomatch returns
      · by_cases succeeds : ret = successRet
        · subst succeeds
          rw [fetchValues_success rfl, Except.ok.injEq, Prod.mk.injEq, Prod.mk.injEq] at returns
          exact ⟨rfl, response, client, s', rfl, returns.2.1.symm⟩
        · rw [fetchValues] at returns
          dsimp only [bind, Except.bind, pure, Except.pure] at returns
          rw [if_neg (by decide), Except.ok.injEq, Prod.mk.injEq] at returns
          exact absurd returns.1 succeeds

theorem fetchesValues_iff :
    FetchesValues transport malloc exchange outputs s ↔ AllEnd malloc exchange outputs := by
  constructor
  · intro fetches isMalloc response client s' isExchange
    subst isMalloc
    have returns := @fetchValues_success _ transport exchange outputs s s' response client isExchange
    obtain ⟨response', client', s'', again, holds⟩ := fetches.exact _ _ _ returns rfl
    rw [isExchange, Except.ok.injEq, Prod.mk.injEq, Prod.mk.injEq] at again
    obtain ⟨-, rfl, -⟩ := again
    exact (copyValues_holds_iff response outputs).mp holds
  · intro ends
    constructor
    · intro ret bufs after returns succeeds
      obtain ⟨isMalloc, response, client, s', isExchange, rfl⟩ := fetchValues_inv returns succeeds
      refine ⟨response, client, s', isExchange, ?_⟩
      exact (copyValues_holds_iff response outputs).mpr (ends isMalloc response client s' isExchange)
    · rintro response client s' isExchange ⟨output, among, isNone⟩ ret bufs after returns succeeds
      obtain ⟨isMalloc, -⟩ := fetchValues_inv returns succeeds
      obtain ⟨text, isText, -⟩ := ends isMalloc response client s' isExchange output among
      exact nomatch isNone.symm.trans isText

end Fetch

/-! ## The two calls -/

section Calls

variable (transport : Transport ν) (hmacSha256 : List UInt8 → List UInt8 → List UInt8) (turns : Nat)

/-- `IOT_HTTP_Get_Token` gives the token of the response, or fails. -/
def GetsToken (productSn deviceSn deviceSecret : List UInt8) (malloc : Bool) (token : Nat → UInt8)
    (s : ν) : Prop :=
  FetchesValues transport malloc
    (tokenExchange transport hmacSha256 turns productSn deviceSn deviceSecret s) [(tokenField, token)] s

/-- `IOT_GET_URL_AND_AUTH` gives the authorization and the URL of the response, or fails. -/
def GetsUrlAndAuth (info : UploadInfo) (malloc : Bool) (authorization putUrl : Nat → UInt8) (s : ν) : Prop :=
  FetchesValues transport malloc (urlExchange transport hmacSha256 turns info s)
    [(authorizationField, authorization), (urlField, putUrl)] s

/-- When the two calls do what they are called for. -/
theorem getsValues_iff (productSn deviceSn deviceSecret : List UInt8) (info : UploadInfo) (malloc : Bool)
    (token authorization putUrl : Nat → UInt8) (s : ν) :
    (GetsToken transport hmacSha256 turns productSn deviceSn deviceSecret malloc token s ↔
        (malloc = true → ∀ response client s',
          tokenExchange transport hmacSha256 turns productSn deviceSn deviceSecret s =
            .ok (successRet, response, client, s') → Ends response (tokenField, token))) ∧
      (GetsUrlAndAuth transport hmacSha256 turns info malloc authorization putUrl s ↔
        (malloc = true → ∀ response client s', urlExchange transport hmacSha256 turns info s =
            .ok (successRet, response, client, s') →
          Ends response (authorizationField, authorization) ∧ Ends response (urlField, putUrl))) := by
  constructor
  · rw [GetsToken, fetchesValues_iff, AllEnd]
    simp only [List.forall_mem_singleton]
  · rw [GetsUrlAndAuth, fetchesValues_iff, AllEnd]
    simp only [List.forall_mem_cons, List.not_mem_nil, false_imp_iff, implies_true, and_true]

end Calls

/-- A network that accepts what it is given and answers with the text that it holds. -/
def answering : Transport (List UInt8) where
  read text n := ((text.take n).length, text.take n, text.drop n)
  write text bytes := (bytes.length, text)
  connect text _ _ := (.connection, text)
  disconnect text _ := text
  tick text := (0, text)
  rtTickFromMillisecond n := n
  usingTls := true

/-- The client behind the response, with the header that it sent. -/
def tokenClient : HttpClient where
  net := { hostAddress := literal "http-cn-sh2.iot.ucloud.cn", port := 443, handle := .connection }
  responseCode := 200
  header := some (tokenHeader [] (tokenPostBuf [] []))

def okAnswer (length body : String) : List UInt8 :=
  literal "HTTP/1.1 200 OK\r\nContent-Length: " ++ literal length ++ literal "\r\n\r\n" ++ literal body

/-- An answer without a token is a success. -/
theorem not_getsToken_missing : ¬GetsToken answering (fun _ _ => []) 9 [] [] [] true (fun _ => 0)
    (okAnswer "2" "\x7b\x7d") := by
  intro gets
  have response : tokenExchange answering (fun _ _ => []) 9 [] [] [] (okAnswer "2" "\x7b\x7d") =
      .ok (successRet, literal "\x7b\x7d", tokenClient, []) := by
    decide +kernel
  obtain ⟨text, isText, -⟩ :=
    fetchesValues_iff.mp gets rfl _ _ _ response (tokenField, fun _ => 0) List.mem_cons_self
  exact absurd (Option.isSome_of_eq_some isText) (by decide)

end UIoT.Http
