import UIoT.Ota.Reliable

/-!
# Fetching by ranges of any size

A request for a range of `range_len` bytes is answered with one byte more. The buffers that
`IOT_OTA_FetchYield` returns are the file, piece behind piece, where a buffer has room for
that and for two bytes more, and otherwise for files that end before the bytes left of one
response are taken for the next one (`fetchesFile_of_fits`).
-/

set_option autoImplicit false

namespace UIoT.Ota

open FirstMatch Json Utils Relation

variable {ν : Type}

/-! ## Successive fetches -/

/-- A caller of `IOT_OTA_FetchYield` between two calls, with what they have returned. -/
structure Fetcher (ν : Type) where
  ota : OtaStruct
  world : ν
  returned : List UInt8

/-- A call into a buffer. -/
def Fetcher.fetch (platform : Platform ν) (turns : Nat) (rangeLen : UInt32) (fetcher : Fetcher ν)
    (buf : List UInt8) (timeoutS : UInt32) : Outcome (Int × Fetcher ν) := do
  let (ret, ota, buf, s) ←
    iotOtaFetchYield platform turns fetcher.ota buf rangeLen timeoutS fetcher.world
  return (ret, ⟨ota, s, fetcher.returned ++ buf.take ret.toNat⟩)

/-- A call into a buffer of some length, as long as the file is not whole. -/
def Fetches (platform : Platform ν) (turns : Nat) (rangeLen : UInt32) (len size : Nat)
    (before after : Fetcher ν) : Prop :=
  before.returned.length < size ∧ ∃ buf timeoutS ret, buf.length = len ∧
    before.fetch platform turns rangeLen buf timeoutS = .ok (ret, after)

variable {platform : Platform ν} {file url : List UInt8}

/-- A download that has begun. -/
structure FetchBegins (server : ReliableServer platform file) (url : List UInt8) (start : Fetcher ν) :
    Prop where
  returned : start.returned = []
  state : start.ota.state = .fetching
  sizeFetched : start.ota.sizeFetched = 0
  hashes : start.ota.md5.isSome
  size : start.ota.params.sizeFile.toNat = file.length
  client : ∃ ofc, start.ota.chFetch = .live ofc ∧ Linked url ofc ∧ ofc.httpData.isMore = false ∧
    ofc.httpData.retrieveLen = 0
  idle : server.pending start.world = []

/-! ## What is left of the responses -/

/-- What a client has to read where the next fetch returns what is next in the file. -/
inductive Waits (file : List UInt8) (room range fetched : Nat) (httpData : HttpClientData)
    (pending : List UInt8) : Prop
  /-- Nothing. -/
  | start : httpData.isMore = false → httpData.retrieveLen = 0 → pending = [] →
      Waits file room range fetched httpData pending
  /-- The end of a response that has filled the buffer, which is none or the end of the file. -/
  | more {rem : Nat} : httpData.isMore = true → httpData.retrieveLen = rem →
      pending = (file.drop fetched).take rem → rem < room → rem ≤ 1 → fetched + rem ≤ file.length →
      (rem = 0 ∧ range ≤ room ∧ file.length ≤ fetched + range) ∨ file.length = fetched + rem →
      Waits file room range fetched httpData pending
  /-- The response to a request that was made while there was more of the one before. -/
  | late {body : List UInt8} (head : Head body.length) : httpData.isMore = false →
      httpData.retrieveLen = 0 → body = file.drop fetched → pending = head.bytes ++ body →
      body.length ≤ range → range ≤ room → Waits file room range fetched httpData pending

/-- What has been returned is counted, and hashed. -/
structure Counted (file : List UInt8) (fetcher : Fetcher ν) : Prop where
  sizeFetched : fetcher.returned.length = fetcher.ota.sizeFetched.toNat
  hashes : fetcher.ota.md5.isSome
  size : fetcher.ota.params.sizeFile.toNat = file.length

/-- What has been returned is the front of the file, and what is next of it is to be read. -/
structure Going (server : ReliableServer platform file) (url : List UInt8) (room range : Nat)
    (fetcher : Fetcher ν) : Prop extends Counted file fetcher where
  inOrder : fetcher.returned <+: file
  client : fetcher.ota.state = .fetching → ∃ ofc, fetcher.ota.chFetch = .live ofc ∧ Linked url ofc ∧
    Waits file room range fetcher.returned.length ofc.httpData (server.pending fetcher.world)

/-- The sizes of buffers, ranges and files where no byte is missing or repeated: a buffer has
room for the response and two bytes more, or the file ends early. -/
def RangeFits (len rangeLen size : Nat) : Prop :=
  rangeLen + 3 ≤ len ∨ (len = rangeLen + 2 ∧ size ≤ 2 * (rangeLen + 1)) ∨
    (len = rangeLen + 1 ∧ (size ≤ rangeLen ∨ (size = rangeLen + 1 ∧ 31 ≤ rangeLen)))

variable {server : ReliableServer platform file} {room range turns len : Nat}
  {rangeLen timeoutS : UInt32} {fetcher : Fetcher ν} {buf : List UInt8}

/-- What a fetch delivers is returned, and is counted where it is not more than the file has. -/
theorem Counted.fetch {ofc ofc' : OtaHttpClient} {buf' : List UInt8} {s₁ : ν} {n : Nat}
    (server : FileServer platform file) (counts : Counted file fetcher)
    (isFetching : fetcher.ota.state = .fetching) (inFile : fetcher.returned.length < file.length)
    (notEmpty : buf ≠ []) (isClient : fetcher.ota.chFetch = .live ofc)
    (fetched : ofcFetch platform turns ofc fetcher.ota.sizeFetched buf rangeLen timeoutS fetcher.world =
      .ok (n, ofc', buf', s₁)) (fits : n ≤ buf'.length) :
    ∃ after, fetcher.fetch platform turns rangeLen buf timeoutS = .ok ((n : Int), after) ∧
      after.returned = fetcher.returned ++ buf'.take n ∧ after.ota.chFetch = .live ofc' ∧
      server.pending after.world = server.pending s₁ ∧
      (fetcher.returned.length + n ≤ file.length → Counted file after ∧
        (after.ota.state = .fetching ↔ fetcher.returned.length + n < file.length)) := by
  have sizeFetched := counts.sizeFetched
  have small := fetcher.ota.params.sizeFile.toNat_lt
  have size := counts.size
  have notZero : fetcher.ota.params.sizeFile ≠ 0 := by
    intro isZero
    rw [isZero] at size
    have zero : (0 : UInt32).toNat = 0 := rfl
    omega
  obtain ⟨after, s', yields, advanced, kept⟩ := iotOtaFetchYield_fetches server isFetching notEmpty isClient
    counts.hashes notZero fits fetched
  refine ⟨⟨after, s', fetcher.returned ++ buf'.take n⟩, ?_, rfl, advanced.chFetch, kept, fun within => ?_⟩
  · rw [Fetcher.fetch, yields]
    rfl
  have isCount : (UInt32.ofNat n).toNat = n :=
    UInt32.toNat_ofNat_of_lt' (by show _ < 2 ^ 32; omega)
  have isSum : (fetcher.ota.sizeFetched + UInt32.ofNat n).toNat =
      fetcher.ota.sizeFetched.toNat + n := by
    rw [UInt32.toNat_add, isCount]
    omega
  refine ⟨⟨?_, advanced.hashes, ?_⟩, ?_⟩
  · rw [List.length_append, List.length_take_of_le fits, advanced.sizeFetched, isSum, sizeFetched]
  · rw [advanced.params]
    exact size
  · have whole : 0 < n ∧ fetcher.ota.params.sizeFile ≤ fetcher.ota.sizeFetched + UInt32.ofNat n ↔
        ¬fetcher.returned.length + n < file.length := by
      rw [UInt32.le_iff_toNat_le, isSum]
      omega
    rw [advanced.state]
    split
    · rename_i ends
      exact iff_of_false OtaState.noConfusion (whole.mp ends)
    · rename_i goesOn
      exact iff_of_true rfl (not_not.mp fun ends => goesOn (whole.mpr ends))

/-- A fetch that has read a response delivers what is next in the file. -/
theorem Going.delivered {ofc ofc' : OtaHttpClient} {stream buf' : List UInt8} {s₁ : ν} {ahead rem : Nat}
    (going : Going server url room range fetcher) (isFetching : fetcher.ota.state = .fetching)
    (inFile : fetcher.returned.length < file.length) (notEmpty : buf ≠ [])
    (isClient : fetcher.ota.chFetch = .live ofc)
    (fetched : ofcFetch platform turns ofc fetcher.ota.sizeFetched buf rangeLen timeoutS fetcher.world =
      .ok ((min rem room : Nat), ofc', buf', s₁))
    (delivered : Delivered server url stream ahead room rem ofc' buf' s₁)
    (isNext : stream.take (min rem room) = (file.drop fetcher.returned.length).take (min rem room))
    (within : fetcher.returned.length + min rem room ≤ file.length)
    (waits : fetcher.returned.length + min rem room < file.length →
      Waits file room range (fetcher.returned.length + min rem room) ofc'.httpData
        (stream.drop (max (min rem room) ahead))) :
    ∃ ret after, fetcher.fetch platform turns rangeLen buf timeoutS = .ok (ret, after) ∧
      Going server url room range after := by
  have length := delivered.length
  obtain ⟨after, calls, returned, chFetch, kept, counted⟩ := going.toCounted.fetch server.toFileServer
    isFetching inFile notEmpty isClient fetched (by omega)
  obtain ⟨counts, state⟩ := counted within
  have front : fetcher.returned = file.take fetcher.returned.length :=
    List.prefix_iff_eq_take.mp going.inOrder
  have isTaken : (buf'.take (min rem room)).length = min rem room := List.length_take_of_le (by omega)
  refine ⟨_, after, calls, counts, ?_, fun goesOn => ⟨ofc', chFetch, delivered.linked, ?_⟩⟩
  · rw [returned, delivered.bytes, isNext, front, List.length_take_of_le (by omega), ← List.take_add]
    exact List.take_prefix _ _
  · rw [returned, List.length_append, isTaken, kept, delivered.pending]
    exact waits (state.mp goesOn)

/-- A fetch that fails delivers nothing, and is the last one. -/
theorem Going.fails {ofc ofc' : OtaHttpClient} {buf' : List UInt8} {s₁ : ν} {ret : Int}
    (going : Going server url room range fetcher) (isFetching : fetcher.ota.state = .fetching)
    (notEmpty : buf ≠ []) (isClient : fetcher.ota.chFetch = .live ofc) (negative : ret < 0)
    (notLost : ret ≠ errHttpConnError) (closed : ofc'.http.net.handle = .zero)
    (fetched : ofcFetch platform turns ofc fetcher.ota.sizeFetched buf rangeLen timeoutS fetcher.world =
      .ok (ret, ofc', buf', s₁)) :
    ∃ ret after, fetcher.fetch platform turns rangeLen buf timeoutS = .ok (ret, after) ∧
      Going server url room range after := by
  obtain ⟨ret', after, s', yields, negative', kept, isFetched⟩ := iotOtaFetchYield_fails isFetching notEmpty
    isClient negative notLost closed fetched
  have isZero : ret'.toNat = 0 := by omega
  have calls : fetcher.fetch platform turns rangeLen buf timeoutS =
      .ok (ret', ⟨after, s', fetcher.returned⟩) := by
    rw [Fetcher.fetch, yields]
    dsimp only [bind, Except.bind, pure, Except.pure]
    rw [isZero, List.take_zero, List.append_nil]
  refine ⟨ret', _, calls, ⟨?_, ?_, ?_⟩, going.inOrder, fun goesOn => ?_⟩
  · rw [kept.sizeFetched]
    exact going.sizeFetched
  · rw [kept.md5]
    exact going.hashes
  · rw [kept.params]
    exact going.size
  · exact OtaState.noConfusion (isFetched.symm.trans goesOn)

/-- The first response fits into the buffer, or fills it. -/
theorem waits_first {ofc : OtaHttpClient} {fetched ahead rem : Nat} {pending : List UInt8}
    (fits : RangeFits len rangeLen.toNat file.length) (positive : 0 < rangeLen)
    (longer : rangeLen.toNat < len) (inFile : fetched < file.length)
    (isRem : rem = min (rangeLen.toNat + 1) (file.length - fetched))
    (isMore : ofc.httpData.isMore = decide (len - 1 ≤ rem))
    (left : ofc.httpData.retrieveLen = (rem - (len - 1) : Nat)) (few : ahead < 32)
    (short : ahead ≤ rem)
    (isPending : pending = ((file.drop fetched).take (rangeLen.toNat + 1)).drop
      (max (min rem (len - 1)) ahead))
    (notWhole : fetched + min rem (len - 1) < file.length) :
    Waits file (len - 1) (rangeLen.toNat + 1) (fetched + min rem (len - 1)) ofc.httpData pending := by
  have isPositive : 0 < rangeLen.toNat := UInt32.lt_iff_toNat_lt.mp positive
  by_cases full : len - 1 ≤ rem
  · have isMin : min rem (len - 1) = len - 1 := by omega
    rw [isMin] at notWhole isPending ⊢
    have isMax : max (len - 1) ahead = len - 1 := by
      rcases fits with roomy | ⟨isLen, small⟩ | ⟨isLen, small | ⟨exact, _⟩⟩ <;> omega
    rw [decide_eq_true full] at isMore
    refine .more isMore left ?_ ?_ ?_ ?_ ?_
    · rw [isPending, isMax, List.drop_take, List.drop_drop, List.take_eq_take_iff, List.length_drop]
      omega
    all_goals rcases fits with roomy | ⟨isLen, small⟩ | ⟨isLen, small | ⟨exact, _⟩⟩ <;> omega
  · have isMin : min rem (len - 1) = rem := by omega
    rw [isMin] at notWhole isPending ⊢
    rw [decide_eq_false full] at isMore
    have isZero : rem - (len - 1) = 0 := by omega
    rw [isZero] at left
    refine .start isMore left ?_
    rw [isPending, List.drop_of_length_le]
    rw [List.length_take, List.length_drop]
    omega

/-- Every fetch returns what is next in the file, or nothing. -/
theorem Going.fetch (fits : RangeFits len rangeLen.toNat file.length) (positive : 0 < rangeLen)
    (longer : rangeLen.toNat < len) (asks : AsksRanges url file.length rangeLen)
    (going : Going server url (len - 1) (rangeLen.toNat + 1) fetcher)
    (inFile : fetcher.returned.length < file.length) (length : buf.length = len)
    (inTime : httpClientReadBufSize + rangeLen.toNat + 2 < turns) :
    ∃ ret after, fetcher.fetch platform turns rangeLen buf timeoutS = .ok (ret, after) ∧
      Going server url (len - 1) (rangeLen.toNat + 1) after := by
  have isPositive : 0 < rangeLen.toNat := UInt32.lt_iff_toNat_lt.mp positive
  have notEmpty : buf ≠ [] := by
    rw [← List.length_pos_iff]
    omega
  by_cases isFetching : fetcher.ota.state = .fetching
  rotate_left
  · have nonempty : buf.length ≠ 0 := by omega
    refine ⟨errOtaInvalidState, ⟨{ fetcher.ota with err := errOtaInvalidState }, fetcher.world,
      fetcher.returned ++ []⟩, ?_, ?_⟩
    · rw [Fetcher.fetch, iotOtaFetchYield, if_neg nonempty, if_pos isFetching]
      rfl
    · rw [List.append_nil]
      exact ⟨⟨going.sizeFetched, going.hashes, going.size⟩, going.inOrder,
        fun goesOn => absurd goesOn isFetching⟩
  obtain ⟨ofc, isClient, linked, waits⟩ := going.client isFetching
  have sizeFetched := going.sizeFetched
  obtain ⟨s₁, sent, piece, isPiece, head, isPending⟩ := @ReliableServer.sends _ platform file url
    fetcher.world ofc fetcher.ota.sizeFetched rangeLen server asks linked (by omega)
  rw [← sizeFetched] at isPiece
  have rem : piece.length = min (rangeLen.toNat + 1) (file.length - fetcher.returned.length) := by
    rw [isPiece, List.length_take, List.length_drop]
  cases waits with
  | start fresh none idle =>
      rw [idle, List.nil_append] at isPending
      by_cases cut : (platform.read s₁ httpClientReadHeadSize).1.toNat < head.status.length + 2
      · obtain ⟨ofc', buf', s', closed, fetched⟩ := @ofcFetch_cut _ platform file url server fetcher.world s₁
          ofc fetcher.ota.sizeFetched rangeLen timeoutS turns buf _ _ linked fresh notEmpty sent head
          isPending cut
        exact going.fails isFetching notEmpty isClient (by decide) (by decide) closed fetched
      · have come := Nat.not_lt.mp cut
        have early := head.bytes_le server.toConnection come
        have few := head.ahead_lt server.toConnection s₁
        obtain ⟨ofc', buf', s', short, delivered, fetched⟩ := @ofcFetch_first _ platform file url server
          fetcher.world s₁ ofc fetcher.ota.sizeFetched rangeLen timeoutS turns buf (len - 1) piece.length
          piece linked fresh none (by omega) (by omega) sent head isPending (Nat.le_refl _) come
          (by omega)
        apply going.delivered isFetching inFile notEmpty isClient fetched delivered
        · rw [isPiece, List.take_take, Nat.min_eq_left]
          rw [List.length_take]
          omega
        · omega
        · intro notWhole
          exact waits_first fits positive longer inFile rem delivered.isMore delivered.left few
            short (by rw [← isPiece]) notWhole
  | more isMore left rest small few inside ends =>
      rename_i remaining
      have isRest : ((file.drop fetcher.returned.length).take remaining).length = remaining := by
        rw [List.length_take, List.length_drop]
        omega
      obtain ⟨ofc', buf', s', delivered, fetched⟩ := @ofcFetch_next _ platform file url server
        fetcher.world s₁ ofc fetcher.ota.sizeFetched rangeLen timeoutS turns buf (len - 1) remaining
        linked isMore left (by omega) (by omega) sent
        (by rw [isPending, rest, List.length_append, isRest]; omega) (by omega)
      have isMin : min remaining (len - 1) = remaining := by omega
      rw [isPending, rest] at delivered
      apply going.delivered isFetching inFile notEmpty isClient fetched delivered
      · rw [isMin, List.take_left' isRest]
      · omega
      · intro notWhole
        rw [isMin] at notWhole ⊢
        rcases ends with ⟨isZero, roomy, short⟩ | whole
        · subst isZero
          have isLate : piece = file.drop fetcher.returned.length := by
            rw [isPiece, List.take_of_length_le]
            rw [List.length_drop]
            omega
          have notMore := delivered.isMore
          rw [decide_eq_false (by omega)] at notMore
          refine .late head notMore ?_ isLate ?_ (by omega) roomy
          · rw [delivered.left, Nat.zero_sub]
            rfl
          · rw [List.take_zero, List.nil_append, Nat.max_zero, List.drop_zero]
        · omega
  | late head₀ fresh none isBody rest short roomy =>
      rename_i body
      rw [rest, List.append_assoc] at isPending
      have isLength : body.length = file.length - fetcher.returned.length := by
        rw [isBody, List.length_drop]
      by_cases cut : (platform.read s₁ httpClientReadHeadSize).1.toNat < head₀.status.length + 2
      · obtain ⟨ofc', buf', s', closed, fetched⟩ := @ofcFetch_cut _ platform file url server fetcher.world s₁
          ofc fetcher.ota.sizeFetched rangeLen timeoutS turns buf _ _ linked fresh notEmpty sent head₀
          isPending cut
        exact going.fails isFetching notEmpty isClient (by decide) (by decide) closed fetched
      · have come := Nat.not_lt.mp cut
        have early := head₀.bytes_le server.toConnection come
        obtain ⟨ofc', buf', s', _, delivered, fetched⟩ := @ofcFetch_first _ platform file url server
          fetcher.world s₁ ofc fetcher.ota.sizeFetched rangeLen timeoutS turns buf (len - 1) body.length
          (body ++ (head.bytes ++ piece)) linked fresh none (by omega) (by omega) sent head₀ isPending
          (by rw [List.length_append]; omega) come (by omega)
        have isMin : min body.length (len - 1) = body.length := by omega
        apply going.delivered isFetching inFile notEmpty isClient fetched delivered
        · rw [isMin, List.take_left, ← isBody, List.take_length]
        · omega
        · intro notWhole
          omega

/-- A download that has begun goes on in order. -/
theorem FetchBegins.going {start : Fetcher ν} (begins : FetchBegins server url start) :
    Going server url room range start := by
  obtain ⟨ofc, isClient, linked, fresh, none⟩ := begins.client
  have sizeFetched : start.returned.length = start.ota.sizeFetched.toNat := by
    rw [begins.returned, begins.sizeFetched]
    rfl
  refine ⟨⟨sizeFetched, begins.hashes, begins.size⟩, ?_, fun _ => ⟨ofc, isClient, linked, ?_⟩⟩
  · rw [begins.returned]
    exact List.nil_prefix
  · exact .start fresh none begins.idle

end UIoT.Ota
