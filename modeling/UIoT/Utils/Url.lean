import Mathlib.Data.List.TakeWhile
import UIoT.Lib.JsonReader
import UIoT.Utils.JsonScan
import UIoT.Utils.Reception

/-!
# URLs

`_utils_parse_url` looks for the end of the scheme, for the path and for the fragment in three
searches, which do not know of each other. It stays in its buffers, and succeeds with nothing
but the authority of a URL and what is behind it up to the fragment, for URLs whose scheme,
authority and path stand in this order and are not too long (`parsesUrl_iff`).
-/

set_option autoImplicit false

namespace UIoT.Utils

open FirstMatch Json

/-! ## The parts of a URL -/

def endsScheme (byte : UInt8) : Bool := byte = 0x3A || byte = 0x2F || byte = 0x3F || byte = 0x23

def endsAuthority (byte : UInt8) : Bool := byte = 0x2F || byte = 0x3F || byte = 0x23

/-- The authority of a URL, and its path and query up to the fragment. -/
def urlParts (url : List UInt8) : Option (List UInt8 × List UInt8) :=
  if url.takeWhile (!endsScheme ·) = [] then none
  else
    match url.dropWhile (!endsScheme ·) with
    | 0x3A :: 0x2F :: 0x2F :: rest =>
        some (rest.takeWhile (!endsAuthority ·), (rest.dropWhile (!endsAuthority ·)).takeWhile (· ≠ 0x23))
    | _ => none

example : urlParts (literal "http://host/app.bin?v=2#top") =
    some (literal "host", literal "/app.bin?v=2") := by decide

/-- The buffers are not left, and the parts that are returned are those of the URL. -/
def ParsesUrl (url : List UInt8) : Prop :=
  ∃ rc host path, utilsParseUrl url = .ok (rc, host, path) ∧
    (rc = successRet → urlParts url = some (host, path))

abbrev separator : List UInt8 := literal "://"

/-- The text between the first separator and the first slash behind it. -/
structure UrlSplit (url scheme host tail : List UInt8) : Prop where
  isUrl : url = scheme ++ separator ++ (host ++ 0x2F :: tail)
  first : IsFirst separator url scheme.length
  noSlash : 0x2F ∉ host

/-- What is in front of the first separator is a scheme, what is between it and the next slash is
an authority, and it and what is behind it up to the fragment fit into the buffers. -/
def UrlFits (url : List UInt8) : Prop :=
  ∀ scheme host tail, UrlSplit url scheme host tail →
    scheme ≠ [] ∧ (∀ byte ∈ scheme, endsScheme byte = false) ∧
      (∀ byte ∈ host, endsAuthority byte = false) ∧ host.length < httpClientMaxUrlLen ∧
      ((0x2F :: tail).takeWhile (· ≠ 0x23)).length < httpClientMaxUrlLen

variable {url scheme host tail : List UInt8}

/-! ## The searches -/

/-- A fragment is behind what is taken of a text. -/
theorem strchr_fragment (path : List UInt8) :
    strchr 0x23 path = none ∧ path.takeWhile (· ≠ 0x23) = path ∨
      ∃ fragment, strchr 0x23 path = some fragment ∧ path.takeWhile (· ≠ 0x23) ++ fragment = path := by
  cases found : strchr 0x23 path with
  | none =>
      refine .inl ⟨rfl, List.takeWhile_eq_self_iff.mpr ?_⟩
      intro byte among
      rw [decide_eq_true_eq]
      rintro rfl
      obtain ⟨front, rest, rfl, absent⟩ := List.eq_append_cons_of_mem among
      rw [strchr_skip _ absent, strchr_here] at found
      cases found
  | some fragment =>
      obtain ⟨front, rest, rfl, rfl, absent⟩ := strchr_split found
      have isFront := (takeWhile_stop (fun byte : UInt8 => decide (byte ≠ 0x23)) front (0x23 :: rest)
        (fun byte among => decide_eq_true fun isMark => absent (isMark ▸ among))
        (fun byte isHead => by cases isHead; rfl)).1
      refine .inr ⟨_, rfl, ?_⟩
      rw [isFront]

/-- The end of the scheme, and with it the host. -/
theorem UrlSplit.hostPtr (split : UrlSplit url scheme host tail) :
    strstr separator url = some scheme.length ∧ url.drop (scheme.length + 3) = host ++ 0x2F :: tail := by
  refine ⟨strstr_iff.mpr split.first, ?_⟩
  have isEnd : scheme.length + 3 = (scheme ++ separator).length := by
    rw [List.length_append]
    rfl
  rw [split.isUrl, isEnd, List.drop_left]

/-- The code stays in its buffers where the fragment is behind the path and nothing is too
long. -/
theorem UrlSplit.parse (split : UrlSplit url scheme host tail) :
    utilsParseUrl url =
      if httpClientMaxUrlLen ≤ host.length ∨ 0x23 ∈ host ∨
          httpClientMaxUrlLen ≤ ((0x2F :: tail).takeWhile (· ≠ 0x23)).length then .error .outside
      else .ok (successRet, host, (0x2F :: tail).takeWhile (· ≠ 0x23)) := by
  obtain ⟨found, isHost⟩ := split.hostPtr
  have isPath : strchr 0x2F (host ++ 0x2F :: tail) = some (0x2F :: tail) := by
    rw [strchr_skip _ split.noSlash, strchr_here]
  have hostLen : (host ++ 0x2F :: tail).length - (0x2F :: tail).length = host.length := by
    rw [List.length_append, Nat.add_sub_cancel]
  rw [utilsParseUrl, found]
  dsimp only
  rw [isHost, isPath]
  dsimp only
  rw [hostLen]
  by_cases fragment : 0x23 ∈ host
  · obtain ⟨front, rest, rfl, absent⟩ := List.eq_append_cons_of_mem fragment
    rw [List.append_assoc, strchr_skip _ absent, List.cons_append, strchr_here]
    dsimp only
    have negative : ((0x2F :: tail).length : Int) - (0x23 :: (rest ++ 0x2F :: tail)).length < 0 := by
      rw [List.length_cons (a := 0x23), List.length_append]
      omega
    rw [if_pos (.inr (.inl negative)), if_pos (.inr (.inl fragment))]
  · have ends : ∀ path kept : List UInt8, ∀ pathLen : Int, pathLen = kept.length → kept <+: path →
        (if httpClientMaxUrlLen ≤ host.length ∨ pathLen < 0 ∨ (httpClientMaxUrlLen : Int) ≤ pathLen then
            (.error .outside : Outcome (Int × List UInt8 × List UInt8))
          else .ok (successRet, host, path.take pathLen.toNat)) =
        if httpClientMaxUrlLen ≤ host.length ∨ 0x23 ∈ host ∨ httpClientMaxUrlLen ≤ kept.length then
            .error .outside
          else .ok (successRet, host, kept) := by
      rintro _ kept _ rfl ⟨rest, rfl⟩
      have bound : (httpClientMaxUrlLen : Int) ≤ kept.length ↔ httpClientMaxUrlLen ≤ kept.length :=
        Int.ofNat_le
      have notNegative : ¬(kept.length : Int) < 0 := Int.not_lt.mpr (Int.natCast_nonneg _)
      rw [Int.toNat_natCast, List.take_left]
      simp only [bound, notNegative, fragment]
    rw [strchr_skip _ fragment, List.take_left]
    rcases strchr_fragment (0x2F :: tail) with ⟨none, whole⟩ | ⟨rest, some, isSplit⟩
    · rw [none, whole]
      exact ends _ _ _ rfl (List.prefix_refl _)
    · rw [some]
      apply ends _ _ _ _ ⟨rest, isSplit⟩
      have length := congrArg List.length isSplit
      rw [List.length_append] at length
      dsimp only
      omega

/-- A URL without a separator, or without a slash behind it, is refused. -/
theorem utilsParseUrl_refuses (noSplit : ∀ scheme host tail, ¬UrlSplit url scheme host tail) :
    utilsParseUrl url = .ok (errParamInvalid, [], []) := by
  rw [utilsParseUrl]
  cases found : strstr (literal "://") url with
  | none => rfl
  | some i =>
      dsimp only
      have first := strstr_iff.mp found
      cases slash : strchr 0x2F (url.drop (i + 3)) with
      | none => rfl
      | some pathPtr =>
          obtain ⟨host, tail, isBehind, rfl, noSlash⟩ := strchr_split slash
          obtain ⟨rest, isRest⟩ := first.found
          have fits := first.fits
          have isScheme : (url.take i).length = i := List.length_take_of_le (by omega)
          have isTail : rest = host ++ 0x2F :: tail := by
            rw [← isBehind, ← List.drop_drop, ← isRest]
            rfl
          refine absurd ⟨?_, ?_, noSlash⟩ (noSplit (url.take i) host tail)
          · rw [List.append_assoc, ← isTail, isRest, List.take_append_drop]
          · rw [isScheme]
            exact first

/-! ## The parts -/

theorem takeWhile_not {ends : UInt8 → Bool} {front back : List UInt8}
    (none : ∀ byte ∈ front, ends byte = false) (stop : ∀ byte ∈ back.head?, ends byte = true) :
    (front ++ back).takeWhile (!ends ·) = front ∧ (front ++ back).dropWhile (!ends ·) = back := by
  apply takeWhile_stop
  · intro byte among
    rw [none byte among, Bool.not_false]
  · intro byte isHead
    rw [stop byte isHead, Bool.not_true]

/-- The first byte that ends a scheme is the first byte of the first separator. -/
theorem isFirst_separator {rest : List UInt8} (none : ∀ byte ∈ scheme, endsScheme byte = false) :
    IsFirst separator (scheme ++ separator ++ rest) scheme.length := by
  have without : (0x3A : UInt8) ∉ scheme := by
    intro among
    exact absurd (none 0x3A among) (by decide)
  have first := (isFirst_zero (List.prefix_append separator rest)).behind without
  rwa [Nat.add_zero, ← List.append_assoc] at first

theorem UrlSplit.parts_iff (split : UrlSplit url scheme host tail) :
    urlParts url = some (host, (0x2F :: tail).takeWhile (· ≠ 0x23)) ↔
      scheme ≠ [] ∧ (∀ byte ∈ scheme, endsScheme byte = false) ∧
        ∀ byte ∈ host, endsAuthority byte = false := by
  constructor
  · intro parts
    rw [urlParts] at parts
    split at parts
    · cases parts
    · rename_i notEmpty
      split at parts
      · rename_i rest isRest
        obtain ⟨isHost, _⟩ := Prod.mk.inj (Option.some.inj parts)
        have whole := List.takeWhile_append_dropWhile (p := (!endsScheme ·)) (l := url)
        have noEnd : ∀ byte ∈ url.takeWhile (!endsScheme ·), endsScheme byte = false := by
          intro byte among
          simpa using List.mem_takeWhile_imp among
        generalize url.takeWhile (!endsScheme ·) = front at notEmpty whole noEnd
        have isUrl : front ++ separator ++ rest = url := by
          rw [← whole, isRest, List.append_assoc]
          rfl
        have first := @isFirst_separator front rest noEnd
        rw [isUrl] at first
        have length := split.first.unique first
        have same : scheme = front := by
          have both := split.isUrl.symm.trans isUrl.symm
          rw [List.append_assoc, List.append_assoc] at both
          exact (List.append_inj both length).1
        subst same
        refine ⟨notEmpty, noEnd, fun byte among => ?_⟩
        rw [← isHost] at among
        simpa using List.mem_takeWhile_imp among
      · cases parts
  · rintro ⟨notEmpty, noEnd, noStop⟩
    obtain ⟨isScheme, isRest⟩ := @takeWhile_not endsScheme scheme (separator ++ (host ++ 0x2F :: tail))
      noEnd (fun byte isHead => by cases isHead; rfl)
    obtain ⟨isHost, isPath⟩ := @takeWhile_not endsAuthority host (0x2F :: tail) noStop
      (fun byte isHead => by cases isHead; rfl)
    rw [← List.append_assoc, ← split.isUrl] at isScheme isRest
    rw [urlParts, isScheme, if_neg notEmpty, isRest]
    change some ((host ++ 0x2F :: tail).takeWhile (!endsAuthority ·),
      ((host ++ 0x2F :: tail).dropWhile (!endsAuthority ·)).takeWhile (· ≠ 0x23)) = _
    rw [isHost, isPath]

/-- A URL is parsed as it is to be just where its parts stand in order and fit. -/
theorem parsesUrl_iff (url : List UInt8) : ParsesUrl url ↔ UrlFits url := by
  constructor
  · rintro ⟨rc, hostOut, pathOut, parsed, success⟩ scheme host tail split
    rw [split.parse] at parsed
    split at parsed
    · cases parsed
    · rename_i inside
      cases parsed
      obtain ⟨notEmpty, noEnd, noStop⟩ := split.parts_iff.mp (success rfl)
      rw [not_or, not_or] at inside
      exact ⟨notEmpty, noEnd, noStop, Nat.not_le.mp inside.1, Nat.not_le.mp inside.2.2⟩
  · intro fits
    by_cases split : ∃ scheme host tail, UrlSplit url scheme host tail
    · obtain ⟨scheme, host, tail, split⟩ := split
      obtain ⟨notEmpty, noEnd, noStop, shortHost, shortPath⟩ := fits scheme host tail split
      have inside : ¬(httpClientMaxUrlLen ≤ host.length ∨ 0x23 ∈ host ∨
          httpClientMaxUrlLen ≤ ((0x2F :: tail).takeWhile (· ≠ 0x23)).length) := by
        rintro (long | fragment | long)
        · exact absurd shortHost (Nat.not_lt.mpr long)
        · exact absurd (noStop 0x23 fragment) (by decide)
        · exact absurd shortPath (Nat.not_lt.mpr long)
      have parsed := split.parse
      rw [if_neg inside] at parsed
      exact ⟨_, _, _, parsed, fun _ => split.parts_iff.mpr ⟨notEmpty, noEnd, noStop⟩⟩
    · exact ⟨_, _, _, utilsParseUrl_refuses fun scheme host tail isSplit =>
        split ⟨scheme, host, tail, isSplit⟩, fun success => absurd success (by decide)⟩

/-- A fragment in front of the path makes the length of the path negative, and a query in front of
it is taken for a part of the host. -/
theorem not_parsesUrl :
    ¬ParsesUrl (literal "http://host#x/y") ∧ ¬ParsesUrl (literal "http://host?a=/b") := by
  constructor
  · rintro ⟨rc, host, path, parsed, _⟩
    have fault : utilsParseUrl (literal "http://host#x/y") = .error .outside := by decide
    rw [fault] at parsed
    cases parsed
  · rintro ⟨rc, host, path, parsed, success⟩
    have parts : utilsParseUrl (literal "http://host?a=/b") =
        .ok (successRet, literal "host?a=", literal "/b") := by decide
    rw [parts] at parsed
    cases parsed
    exact absurd (success rfl) (by decide)

end UIoT.Utils
