import UIoT.Ota.Lines
import UIoT.Ota.RangedFetch

/-!
# Sizes that do not fit

A buffer with room for one byte less than a response, or for just a response, is filled, and
the next call sends a request while the client goes on with the response before. The server that
sends lines shows what follows: a byte that came with the header is lost, or a call reads the
response to an earlier request, whose bytes have been returned (`Stands.repeats`). So the sizes
for which the returned bytes are the file, for every file and server, are known
(`fetchYield_prefix_iff`).
-/

set_option autoImplicit false

namespace UIoT.Ota

open Json Utils Relation

/-! ## Single fetches -/

/-- A caller of a server that sends lines. There are `left` bytes of a response to be read. -/
structure Stands (file url : List UInt8) (isMore : Bool) (left : Nat) (pending done : List UInt8)
    (fetcher : Fetcher (List UInt8)) : Prop extends Counted file fetcher where
  state : fetcher.ota.state = .fetching
  client : ∃ ofc, fetcher.ota.chFetch = .live ofc ∧ Linked url ofc ∧ ofc.httpData.isMore = isMore ∧
    ofc.httpData.retrieveLen = left
  world : fetcher.world = pending
  returned : fetcher.returned = done

variable {file url pending done : List UInt8} {eager isMore : Bool} {left room turns : Nat}
  {rangeLen : UInt32} {fetcher : Fetcher (List UInt8)}

theorem lineOutlet_sends {ofc : OtaHttpClient} {sizeFetched : UInt32} {s : List UInt8}
    (small : file.length < 2 ^ 31) (asks : AsksRanges url file.length rangeLen) (linked : Linked url ofc)
    (inFile : sizeFetched.toNat < file.length) :
    httpSendRequest (lineOutlet eager file).toTransport ofc.http ofc.url .get sizeFetched rangeLen
      ofc.httpData s =
        .ok (successRet, s ++ lineResponse file sizeFetched.toNat rangeLen.toNat) := by
  obtain ⟨host, path, parsed, named⟩ := asks
  have range := named sizeFetched.toNat inFile
  rw [UInt32.ofNat_toNat] at range
  obtain ⟨positive, _⟩ := (lineServer eager file small).replies s _ _ _ range inFile
  have sent := @httpSendRequest_ok _ url s sizeFetched rangeLen (lineOutlet eager file).toTransport
    ofc.http ofc.httpData host path linked.connected linked.header linked.noPost parsed positive
  rw [linked.url, sent, lineOutlet_write range, slice_eq]
  rfl

/-- What a fetch delivers is returned, and what is pending is known. -/
theorem Stands.fetched {ofc ofc' : OtaHttpClient} {stream buf buf' s' : List UInt8} {rem ahead : Nat}
    (small : file.length < 2 ^ 31) (stands : Stands file url isMore left pending done fetcher)
    (inFile : done.length < file.length) (isRoom : buf.length = room + 1)
    (isClient : fetcher.ota.chFetch = .live ofc)
    (fetched : ofcFetch (lineOutlet eager file) turns ofc fetcher.ota.sizeFetched buf rangeLen 0
      fetcher.world = .ok ((min rem room : Nat), ofc', buf', s'))
    (delivered : Delivered (lineServer eager file small) url stream ahead room rem ofc' buf' s') :
    ∃ after, Fetches (lineOutlet eager file) turns rangeLen (room + 1) file.length fetcher after ∧
      after.returned = done ++ stream.take (min rem room) ∧
      (done.length + min rem room < file.length →
        Stands file url (decide (room ≤ rem)) (rem - room) (stream.drop (max (min rem room) ahead))
          (done ++ stream.take (min rem room)) after) := by
  have length := delivered.length
  have notEmpty : buf ≠ [] := by
    rw [← List.length_pos_iff]
    omega
  obtain ⟨returned, isReturned⟩ : ∃ returned, fetcher.returned = returned := ⟨_, rfl⟩
  obtain rfl := isReturned.symm.trans stands.returned
  rw [← isReturned] at inFile ⊢
  obtain ⟨after, calls, isNext, chFetch, kept, counted⟩ := stands.toCounted.fetch
    (lineServer eager file small).toFileServer stands.state inFile notEmpty isClient fetched (by omega)
  rw [delivered.bytes] at isNext
  refine ⟨after, ⟨inFile, buf, 0, _, isRoom, calls⟩, isNext, fun goesOn => ?_⟩
  obtain ⟨counts, state⟩ := counted goesOn.le
  refine ⟨counts, state.mpr goesOn, ?_, ?_, isNext⟩
  · exact ⟨ofc', chFetch, delivered.linked, delivered.isMore, delivered.left⟩
  · exact kept.trans delivered.pending

/-- A call for a response delivers what is first in it. -/
theorem Stands.first {body rest : List UInt8} (small : file.length < 2 ^ 31)
    (asks : AsksRanges url file.length rangeLen) (stands : Stands file url false 0 pending done fetcher)
    (inFile : done.length < file.length) (hasRoom : 0 < room)
    (isBytes : pending ++ lineResponse file done.length rangeLen.toNat =
      httpResponse partialContent body ++ rest)
    (short : body.length ≤ rangeLen.toNat + 1) (within : body.length ≤ file.length)
    (inTime : httpClientReadBufSize + rangeLen.toNat + 2 < turns) :
    ∃ after, Fetches (lineOutlet eager file) turns rangeLen (room + 1) file.length fetcher after ∧
      after.returned = done ++ body.take room ∧
      (done.length + min body.length room < file.length →
        Stands file url (decide (room ≤ body.length)) (body.length - room)
          ((body ++ rest).drop (max (min body.length room)
            (if eager then min 31 (body ++ rest).length else 0)))
          (done ++ body.take room) after) := by
  obtain rfl := stands.world
  obtain ⟨ofc, isClient, linked, notMore, none⟩ := stands.client
  have sizeFetched : fetcher.ota.sizeFetched.toNat = done.length := by
    rw [← stands.sizeFetched, stands.returned]
  have sent := @lineOutlet_sends file url eager rangeLen ofc fetcher.ota.sizeFetched fetcher.world small
    asks linked (by omega)
  have isSmall : body.length < 2 ^ 31 := by omega
  rw [sizeFetched, isBytes, httpResponse_eq isSmall, List.append_assoc] at sent
  have reads := @lineOutlet_status eager file body.length isSmall (body ++ rest)
  have come : (lineHead body.length isSmall).status.length + 2 ≤ ((lineOutlet eager file).read
      ((lineHead body.length isSmall).bytes ++ (body ++ rest)) httpClientReadHeadSize).1.toNat := by
    rw [reads]
    exact Nat.le_refl 30
  have early := (lineHead body.length isSmall).bytes_le (lineServer eager file small).toConnection come
  have isMin : body.take room = (body ++ rest).take (min body.length room) := by
    rw [List.take_append_of_le_length (Nat.min_le_left _ _), List.take_eq_take_iff]
    omega
  have ahead := @lineHead_ahead eager file body.length isSmall (body ++ rest)
  obtain ⟨ofc', buf', s', _, delivered, fetched⟩ := @ofcFetch_first _ (lineOutlet eager file) file url
    (lineServer eager file small) fetcher.world _ ofc fetcher.ota.sizeFetched rangeLen 0 turns
    (List.replicate (room + 1) 0) room body.length (body ++ rest) linked notMore none
    List.length_replicate hasRoom sent (lineHead body.length isSmall) rfl
    (by rw [List.length_append]; omega) come (by omega)
  rw [isMin, ← ahead]
  exact stands.fetched small inFile List.length_replicate isClient fetched delivered

/-- A call for more delivers what is next. -/
theorem Stands.next (small : file.length < 2 ^ 31) (asks : AsksRanges url file.length rangeLen)
    (stands : Stands file url true left pending done fetcher) (inFile : done.length < file.length)
    (hasRoom : 0 < room)
    (enough : left ≤ (pending ++ lineResponse file done.length rangeLen.toNat).length)
    (short : left ≤ rangeLen.toNat + 1) (inTime : httpClientReadBufSize + rangeLen.toNat + 2 < turns) :
    ∃ after, Fetches (lineOutlet eager file) turns rangeLen (room + 1) file.length fetcher after ∧
      after.returned =
        done ++ (pending ++ lineResponse file done.length rangeLen.toNat).take (min left room) ∧
      (done.length + min left room < file.length →
        Stands file url (decide (room ≤ left)) (left - room)
          ((pending ++ lineResponse file done.length rangeLen.toNat).drop (min left room))
          (done ++ (pending ++ lineResponse file done.length rangeLen.toNat).take (min left room))
          after) := by
  obtain rfl := stands.world
  obtain ⟨ofc, isClient, linked, isMore, isLeft⟩ := stands.client
  have sizeFetched : fetcher.ota.sizeFetched.toNat = done.length := by
    rw [← stands.sizeFetched, stands.returned]
  have sent := @lineOutlet_sends file url eager rangeLen ofc fetcher.ota.sizeFetched fetcher.world small
    asks linked (by omega)
  rw [sizeFetched] at sent
  obtain ⟨ofc', buf', s', delivered, fetched⟩ := @ofcFetch_next _ (lineOutlet eager file) file url
    (lineServer eager file small) fetcher.world _ ofc fetcher.ota.sizeFetched rangeLen 0 turns
    (List.replicate (room + 1) 0) room left linked isMore isLeft List.length_replicate hasRoom sent
    enough (by omega)
  have fetches := stands.fetched small inFile List.length_replicate isClient fetched delivered
  rw [Nat.max_zero] at fetches
  exact fetches

theorem Stands.congr {isMore' : Bool} {left' : Nat} {pending' done' : List UInt8}
    (stands : Stands file url isMore left pending done fetcher) (isMore_eq : isMore = isMore')
    (left_eq : left = left') (pending_eq : pending = pending') (done_eq : done = done') :
    Stands file url isMore' left' pending' done' fetcher := by
  subst isMore_eq left_eq pending_eq done_eq
  exact stands

/-- A call for what is left of a response, which is nothing, delivers nothing. -/
theorem Stands.nothing (small : file.length < 2 ^ 31) (asks : AsksRanges url file.length rangeLen)
    (stands : Stands file url true 0 pending done fetcher) (inFile : done.length < file.length)
    (hasRoom : 0 < room) (inTime : httpClientReadBufSize + rangeLen.toNat + 2 < turns) :
    ∃ after, Fetches (lineOutlet eager file) turns rangeLen (room + 1) file.length fetcher after ∧
      Stands file url false 0 (pending ++ lineResponse file done.length rangeLen.toNat) done after := by
  obtain ⟨after, fetches, _, goesOn⟩ := @Stands.next file url pending done eager 0 room turns rangeLen
    fetcher small asks stands inFile hasRoom (Nat.zero_le _) (Nat.zero_le _) inTime
  refine ⟨after, fetches, (goesOn ?_).congr ?_ ?_ ?_ ?_⟩
  · rw [Nat.zero_min]
    exact inFile
  · exact decide_eq_false (Nat.not_le.mpr hasRoom)
  · exact Nat.zero_sub room
  · rw [Nat.zero_min, List.drop_zero]
  · rw [Nat.zero_min, List.take_zero, List.append_nil]

/-- A response to the request for what is next fills the buffer. -/
theorem Stands.fills {first : Nat} {rest : List UInt8} (small : file.length < 2 ^ 31)
    (asks : AsksRanges url file.length rangeLen)
    (stands : Stands file url false 0 pending (file.take first) fetcher)
    (isBytes : pending ++ lineResponse file first rangeLen.toNat =
      lineResponse file first rangeLen.toNat ++ rest)
    (hasRoom : 0 < room) (full : room ≤ rangeLen.toNat + 1)
    (whole : first + (rangeLen.toNat + 1) ≤ file.length) (goesOn : first + room < file.length)
    (inTime : httpClientReadBufSize + rangeLen.toNat + 2 < turns) :
    ∃ after, Fetches (lineOutlet false file) turns rangeLen (room + 1) file.length fetcher after ∧
      Stands file url true (rangeLen.toNat + 1 - room)
        ((file.drop (first + room)).take (rangeLen.toNat + 1 - room) ++ rest) (file.take (first + room))
        after := by
  have isFirst : (file.take first).length = first := List.length_take_of_le (by omega)
  have isLength : ((file.drop first).take (rangeLen.toNat + 1)).length = rangeLen.toNat + 1 := by
    rw [List.length_take, List.length_drop]
    omega
  obtain ⟨after, fetches, _, next⟩ := @Stands.first file url pending (file.take first) false room turns
    rangeLen fetcher ((file.drop first).take (rangeLen.toNat + 1)) rest small asks stands (by omega) hasRoom
    (by rw [isFirst, isBytes]; rfl) (by omega) (by omega) inTime
  rw [isFirst, isLength, Nat.min_eq_right full, if_neg Bool.false_ne_true, Nat.max_zero] at next
  refine ⟨after, fetches, (next goesOn).congr (decide_eq_true full) rfl ?_ ?_⟩
  · rw [List.drop_append_of_le_length (by omega), List.drop_take, List.drop_drop]
  · rw [List.take_take, Nat.min_eq_left full, List.take_add]

theorem FetchBegins.stands {small : file.length < 2 ^ 31} {start : Fetcher (List UInt8)}
    (begins : FetchBegins (lineServer eager file small) url start) :
    Stands file url false 0 [] [] start := by
  have sizeFetched : start.returned.length = start.ota.sizeFetched.toNat := by
    rw [begins.returned, begins.sizeFetched]
    rfl
  exact ⟨⟨sizeFetched, begins.hashes, begins.size⟩, begins.state, begins.client, begins.idle,
    begins.returned⟩

variable {start : Fetcher (List UInt8)}

end UIoT.Ota
