import UIoT.Utils.JsonScan

/-!
# A dotted path in a JSON document

`LITE_json_value_of` on the text of a document is a walk over the tree
(`valueOfPath_walk`): each step takes the first member that has the step's name
among those of the object reached so far and those that follow in the objects
around it. It agrees with the lookup that stays inside the object reached
exactly when no missing step is found outside (`Strays`), the text begins with
no blank but spaces, and the value found is no number with an exponent
(`liteJsonValueOf_eq_iff`).
-/

set_option autoImplicit false

namespace UIoT.Utils

open Json

/-! ## The walk -/

/-- A value and the objects around it. -/
structure Place where
  value : Value
  frames : List Frame

variable (trailing : Blanks)

/-- The members that are seen from a value on. -/
def Place.sightings (place : Place) : List Sighting :=
  match place.value with
  | .object _ members =>
      Members.sightings trailing place.frames members ++ followers trailing place.frames
  | _ => []

/-- The first member whose text begins with a name. -/
def seek (name : List UInt8) (place : Place) : Option Place :=
  ((place.sightings trailing).find? fun sighting => name.isPrefixOf sighting.text).map
    fun sighting => { value := sighting.value, frames := sighting.frames }

def walk : List (List UInt8) → Place → Option Place
  | [], place => some place
  | name :: path, place => (seek trailing name place).bind (walk path)

/-- A step of the path is no member of the object that the steps before it lead
to, and the path goes on to a value among the members that follow in the
objects around. -/
def Strays : List (List UInt8) → Place → Prop
  | [], _ => False
  | name :: path, place =>
      match place.value with
      | .object _ members =>
          match members.find name with
          | some (value, after, rest) =>
              Strays path
                { value := value, frames := { after := after, rest := rest } :: place.frames }
          | none => (walk trailing (name :: path) place).isSome
      | _ => False

variable {trailing}

def Place.cursor (trailing : Blanks) (place : Place) : Cursor :=
  valueCursor place.value (behind trailing place.frames)

structure Place.Plain (place : Place) : Prop where
  value : place.value.AllStr Utils.Plain
  frames : ∀ frame ∈ place.frames, frame.AllStr Utils.Plain

/-! ## The lookup is the walk -/

theorem jsonGetObject_spaces {text : List UInt8} (rest : Cursor)
    (spaces : ∀ byte ∈ text, byte = space) :
    jsonGetObject .object (text ++ rest) = jsonGetObject .object rest := by
  induction text with
  | nil => rfl
  | cons byte text ih =>
      rw [List.cons_append, jsonGetObject, if_pos (spaces byte List.mem_cons_self)]
      exact ih fun other member => spaces other (List.mem_cons_of_mem _ member)

theorem jsonGetObject_other {byte : UInt8} (rest : Cursor) (notSpace : byte ≠ space)
    (notBrace : byte ≠ openBrace) : jsonGetObject .object (byte :: rest) = none := by
  simp [jsonGetObject, notSpace, notBrace]

theorem jsonGetObject_noBrace {text : List UInt8} {byte : UInt8} (rest : Cursor)
    (clean : openBrace ∉ text) (notSpace : byte ≠ space) (notBrace : byte ≠ openBrace) :
    jsonGetObject .object (text ++ byte :: rest) = none := by
  induction text with
  | nil => exact jsonGetObject_other rest notSpace notBrace
  | cons head text ih =>
      have other : head ≠ openBrace := fun same => clean (by simp [same])
      rw [List.cons_append, jsonGetObject]
      split
      · exact ih fun member => clean (List.mem_cons_of_mem _ member)
      · rw [if_pos rfl, if_neg other]

/-- No object is seen where a number stands. -/
theorem jsonGetObject_number (number : Number) (tail : Cursor) :
    jsonGetObject .object (number.text ++ tail) = none := by
  obtain ⟨first, more, mantissa, begins, _⟩ := mantissa_scan number
  rw [Number.text, mantissa, List.cons_append, List.cons_append]
  refine jsonGetObject_other _ ?_ ?_
  · rintro rfl
    revert begins
    decide
  · rintro rfl
    revert begins
    decide

/-- No object is seen where another value stands. -/
theorem jsonGetObject_value {value : Value} (plain : value.AllStr Plain)
    (other : ∀ blanks members, value ≠ .object blanks members) (tail : List UInt8) :
    jsonGetObject .object (valueCursor value tail) = none := by
  cases value with
  | string str =>
      exact jsonGetObject_noBrace tail (plain.2.not_mem (by decide)) (by decide) (by decide)
  | number number => exact jsonGetObject_number number tail
  | true => rfl
  | false => rfl
  | null => rfl
  | array blanks elements => rfl
  | object blanks members => exact absurd rfl (other blanks members)

theorem jsonGetValueByName_none {str : Cursor} (name : List UInt8)
    (noObject : jsonGetObject .object str = none) : jsonGetValueByName str name = none := by
  simp [jsonGetValueByName, jsonParseNameValue, noObject]

theorem scanned_ne_nil {value : Value} (plain : value.AllStr Plain) : scanned value ≠ [] := by
  cases value with
  | string str => exact plain.1
  | number number =>
      obtain ⟨first, more, mantissa, _⟩ := mantissa_scan number
      rw [scanned, mantissa]
      exact List.cons_ne_nil _ _
  | true => decide
  | false => decide
  | null => decide
  | array blanks elements => simp [scanned, Value.text]
  | object blanks members => simp [scanned, Value.text]

/-- Members of a plain document have a name and a value. -/
theorem sightings_plain (frames : List Frame) : (members : Members) → members.AllStr Plain →
    ∀ sighting ∈ Members.sightings trailing frames members,
      Plain sighting.name ∧ sighting.value.AllStr Plain
  | .nil, _, _, member => by simp [Members.sightings] at member
  | .cons _ _ _ _ _ _ rest, plain, sighting, member => by
      rcases List.mem_cons.mp member with rfl | later
      · exact ⟨plain.1, plain.2.1⟩
      · exact sightings_plain frames rest plain.2.2 sighting later

theorem followers_plain : (frames : List Frame) → (∀ frame ∈ frames, frame.AllStr Plain) →
    ∀ sighting ∈ followers trailing frames, Plain sighting.name ∧ sighting.value.AllStr Plain
  | [], _, _, member => by simp [followers] at member
  | frame :: frames, plain, sighting, member => by
      rcases List.mem_append.mp member with here | further
      · exact sightings_plain frames frame.rest (plain frame List.mem_cons_self) sighting here
      · exact followers_plain frames (fun other inside => plain other (List.mem_cons_of_mem _ inside))
          sighting further

theorem Place.Plain.sightings {place : Place} (plain : place.Plain) :
    ∀ sighting ∈ place.sightings trailing,
      Utils.Plain sighting.name ∧ sighting.value.AllStr Utils.Plain := by
  intro sighting member
  rw [Place.sightings] at member
  cases isValue : place.value with
  | object blanks members =>
      rw [isValue] at member
      have plainMembers := plain.value
      rw [isValue] at plainMembers
      rcases List.mem_append.mp member with here | further
      · exact sightings_plain _ members plainMembers sighting here
      · exact followers_plain _ plain.frames sighting further
  | _ => simp [isValue] at member

/-- The loop over the members sees the sightings. -/
theorem jsonParseNameValue_place {place : Place} (plain : place.Plain) :
    jsonParseNameValue (place.cursor trailing) =
      (place.sightings trailing).map (Sighting.entry trailing) := by
  have all : ∀ entry ∈ (place.sightings trailing).map (Sighting.entry trailing),
      (entry.keyLen ≠ 0 && entry.valueLen ≠ 0) = true := by
    intro entry member
    obtain ⟨sighting, inside, rfl⟩ := List.mem_map.mp member
    have both := plain.sightings sighting inside
    simp [Sighting.entry, entryFor, both.1.1, scanned_ne_nil both.2]
  have plainValue := plain.value
  rw [Place.sightings] at all ⊢
  rw [Place.cursor, jsonParseNameValue]
  cases isValue : place.value with
  | object blanks members =>
      rw [isValue] at plainValue all
      have cursor : valueCursor (.object blanks members) (behind trailing place.frames) =
          openBrace :: blanks.text ++ (members.text ++ closeBrace :: behind trailing place.frames) := by
        simp [valueCursor, Value.text]
      have absent : quote ∉ openBrace :: blanks.text := by
        intro member
        rcases List.mem_cons.mp member with isBrace | inBlanks
        · exact absurd isBrace (by decide)
        · exact noMark_blanks blanks quote inBlanks (.inl rfl)
      have entries : allEntries (valueCursor (.object blanks members) (behind trailing place.frames)) =
          (Members.sightings trailing place.frames members ++ followers trailing place.frames).map
            (Sighting.entry trailing) := by
        have inside := @allEntries_members trailing place.frames members (readable_members plainValue)
          [] .nil
        rw [List.nil_append] at inside
        rw [cursor, allEntries_skip _ absent, inside, allEntries_behind _ plain.frames,
          List.map_append]
      have found : jsonGetObject .object (valueCursor (.object blanks members)
          (behind trailing place.frames)) =
          some (valueCursor (.object blanks members) (behind trailing place.frames)) := by
        rw [cursor]
        rfl
      rw [found]
      exact (congrArg _ entries).trans (List.filter_eq_self.mpr all)
  | _ =>
      rw [isValue] at plainValue
      rw [jsonGetObject_value plainValue (by simp)]
      rfl

theorem jsonGetValueByName_place {place : Place} (plain : place.Plain) (name : List UInt8) :
    jsonGetValueByName (place.cursor trailing) name =
      (seek trailing name place).map fun found =>
        (found.cursor trailing, (scanned found.value).length) := by
  rw [jsonGetValueByName, jsonParseNameValue_place plain, seek, List.find?_map]
  simp only [Option.map_map]
  rfl

/-- What encloses a member that is seen is plain too. -/
theorem sightings_frames {frames : List Frame} (plainFrames : ∀ frame ∈ frames, frame.AllStr Plain) :
    (members : Members) → members.AllStr Plain →
      ∀ sighting ∈ Members.sightings trailing frames members,
        ∀ frame ∈ sighting.frames, frame.AllStr Plain
  | .nil, _, _, member => by simp [Members.sightings] at member
  | .cons _ _ _ _ _ _ rest, plain, sighting, member => by
      rcases List.mem_cons.mp member with rfl | later
      · intro frame inFrames
        rcases List.mem_cons.mp inFrames with rfl | outer
        · exact plain.2.2
        · exact plainFrames frame outer
      · exact sightings_frames plainFrames rest plain.2.2 sighting later

theorem followers_frames : (frames : List Frame) → (∀ frame ∈ frames, frame.AllStr Plain) →
    ∀ sighting ∈ followers trailing frames, ∀ frame ∈ sighting.frames, frame.AllStr Plain
  | [], _, _, member => by simp [followers] at member
  | frame :: frames, plain, sighting, member => by
      have outer : ∀ other ∈ frames, other.AllStr Plain := fun other inside =>
        plain other (List.mem_cons_of_mem _ inside)
      rcases List.mem_append.mp member with here | further
      · exact sightings_frames outer frame.rest (plain frame List.mem_cons_self) sighting here
      · exact followers_frames frames outer sighting further

theorem Place.Plain.seek {name : List UInt8} {place found : Place} (plain : place.Plain)
    (result : seek trailing name place = some found) : found.Plain := by
  rw [Utils.seek, Option.map_eq_some_iff] at result
  obtain ⟨sighting, isFound, rfl⟩ := result
  have member := List.mem_of_find?_eq_some isFound
  refine ⟨(plain.sightings sighting member).2, ?_⟩
  have plainValue := plain.value
  rw [Place.sightings] at member
  cases isValue : place.value with
  | object blanks members =>
      rw [isValue] at member plainValue
      rcases List.mem_append.mp member with here | further
      · exact sightings_frames plain.frames members plainValue sighting here
      · exact followers_frames _ plain.frames sighting further
  | _ => simp [isValue] at member

/-- Each step of the path is a step of the walk. -/
theorem valueOfPath_walk (path : List (List UInt8)) : path ≠ [] → ∀ {place : Place}, place.Plain →
    valueOfPath path (place.cursor trailing) = (walk trailing path place).map fun found =>
      (found.cursor trailing, (scanned found.value).length) := by
  induction path with
  | nil => exact fun empty => absurd rfl empty
  | cons name path ih =>
      intro _ place plain
      have step := @jsonGetValueByName_place trailing place plain name
      cases path with
      | nil =>
          rw [valueOfPath, step, walk]
          cases seek trailing name place <;> rfl
      | cons next path =>
          rw [valueOfPath, step, walk]
          · cases result : seek trailing name place with
            | none => rfl
            | some found => exact ih (List.cons_ne_nil _ _) (plain.seek result)
          · exact List.cons_ne_nil _ _

/-! ## The walk and the lookup inside the object -/

/-- A name that is no proper prefix of a member's name. -/
def NoProperPrefix (name : List UInt8) (str : Str) : Prop := name <+: str.bytes → name = str.bytes

/-- A name without a quote does not reach beyond a member's name. -/
theorem prefix_of_quoted {name bytes more : List UInt8} (noQuote : quote ∉ name)
    (isPrefix : name <+: bytes ++ quote :: more) : name <+: bytes := by
  rcases List.prefix_or_prefix_of_prefix isPrefix (List.prefix_append bytes (quote :: more)) with
    inside | ⟨beyond, rfl⟩
  · exact inside
  · cases beyond with
    | nil => simp
    | cons byte beyond =>
        rw [List.prefix_append_right_inj, List.cons_prefix_cons] at isPrefix
        exact absurd (by simp [isPrefix.1]) noQuote

/-- The first member with the name is the first whose text begins with it. -/
theorem find_sightings {name : List UInt8} {value : Value} {after : Blanks} {rest : Members}
    (frames : List Frame) : {members : Members} → members.AllNames (NoProperPrefix name) →
      members.find name = some (value, after, rest) →
      ∃ sighting, (Members.sightings trailing frames members).find?
          (fun sighting => name.isPrefixOf sighting.text) = some sighting ∧
        sighting.value = value ∧ sighting.frames = { after := after, rest := rest } :: frames
  | .nil, _, found => by simp [Members.find] at found
  | .cons _ first _ _ _ _ more, names, found => by
      rw [Members.sightings]
      by_cases same : first.bytes = name
      · rw [Members.find, if_pos same] at found
        cases found
        refine ⟨_, List.find?_cons_of_pos ?_, rfl, rfl⟩
        simp [nameCursor, same]
      · rw [Members.find, if_neg same] at found
        have noQuote : quote ∉ name := fun member =>
          (Members.find_unescaped found quote member).2.1 rfl
        obtain ⟨sighting, isFound, isValue, isFrames⟩ := find_sightings frames names.2.2 found
        refine ⟨sighting, ?_, isValue, isFrames⟩
        rw [List.find?_cons_of_neg, isFound]
        intro isPrefix
        have inside := prefix_of_quoted noQuote (List.isPrefixOf_iff_prefix.mp isPrefix)
        exact same (names.1 inside).symm

theorem seek_of_find {name : List UInt8} {blanks : Blanks} {members : Members} {value : Value}
    {after : Blanks} {rest : Members} (frames : List Frame)
    (names : members.AllNames (NoProperPrefix name))
    (found : members.find name = some (value, after, rest)) :
    seek trailing name { value := .object blanks members, frames := frames } =
      some { value := value, frames := { after := after, rest := rest } :: frames } := by
  obtain ⟨sighting, isFound, rfl, isFrames⟩ :=
    @find_sightings trailing _ _ _ _ frames _ names found
  rw [seek, Place.sightings, List.find?_append, isFound, ← isFrames]
  rfl

/-- The walk agrees with the lookup inside the objects unless it strays, and
then it finds a value that is not there. -/
theorem walk_lookup (path : List (List UInt8)) : ∀ (place : Place),
    (∀ name ∈ path, place.value.AllNames (NoProperPrefix name)) →
      (¬Strays trailing path place →
        (walk trailing path place).map Place.value = place.value.lookup path) ∧
      (Strays trailing path place →
        (walk trailing path place).isSome ∧ place.value.lookup path = none) := by
  induction path with
  | nil =>
      intro place _
      exact ⟨fun _ => rfl, fun strays => strays.elim⟩
  | cons name path ih =>
      rintro ⟨value, frames⟩ names
      cases value with
      | object blanks members =>
          cases found : members.find name with
          | none =>
              have strays : Strays trailing (name :: path)
                  { value := .object blanks members, frames := frames } ↔
                  (walk trailing (name :: path)
                    { value := .object blanks members, frames := frames }).isSome := by
                simp only [Strays, found]
              have missing : (Value.object blanks members).lookup (name :: path) = none := by
                simp only [Value.lookup, found]
              rw [strays, missing]
              refine ⟨fun notFound => ?_, fun isFound => ⟨isFound, rfl⟩⟩
              rw [Option.not_isSome_iff_eq_none.mp notFound, Option.map_none]
          | some member =>
              obtain ⟨value, after, rest⟩ := member
              have here := names name List.mem_cons_self
              have inner : ∀ other ∈ path, value.AllNames (NoProperPrefix other) :=
                fun other member =>
                  Members.AllNames.find (names other (List.mem_cons_of_mem _ member)) found
              have next := ih { value := value, frames := { after := after, rest := rest } :: frames }
                inner
              simp only [Strays, walk, Value.lookup, found,
                @seek_of_find trailing _ blanks _ _ _ _ frames here found]
              exact next
      | _ =>
          refine ⟨fun _ => rfl, fun strays => strays.elim⟩

/-! ## The document -/

/-- The blanks in front of the root are spaces. -/
def Spaced (document : Document) : Prop := ∀ blank ∈ document.leading, blank = .space

/-- The value is no number with an exponent. -/
def NoExponent : Value → Prop
  | .number number => number.exponent = none
  | _ => True

theorem scanned_eq_bare_iff (value : Value) : scanned value = value.bare ↔ NoExponent value := by
  cases value with
  | number number =>
      rw [scanned, Value.bare, Value.text, Number.text, NoExponent, List.self_eq_append_right]
      · cases number.exponent with
        | none => simp [exponentText]
        | some exponent => simp [exponentText, Exponent.text]
      · simp
  | _ => simp [scanned, Value.bare, NoExponent]

theorem jsonGetObject_unspaced {blanks : Blanks} (rest : Cursor)
    (unspaced : ¬∀ blank ∈ blanks, blank = Blank.space) :
    jsonGetObject .object (blanks.text ++ rest) = none := by
  induction blanks with
  | nil => exact absurd (by simp) unspaced
  | cons blank blanks ih =>
      by_cases isSpace : blank = .space
      · subst isSpace
        refine (@jsonGetObject_spaces [space] _ (by simp)).trans (ih fun spaces => ?_)
        exact unspaced fun other member => by
          rcases List.mem_cons.mp member with rfl | inside
          · rfl
          · exact spaces other inside
      · refine jsonGetObject_other _ ?_ ?_ <;> revert isSpace <;> cases blank <;> decide

theorem jsonGetObject_spaced {document : Document} (spaced : Spaced document)
    (plain : document.root.AllStr Plain) :
    jsonGetObject .object document.text = jsonGetObject .object
      (Place.cursor document.trailing { value := document.root, frames := [] }) := by
  have leading : ∀ byte ∈ document.leading.text, byte = space := by
    intro byte member
    obtain ⟨blank, inside, rfl⟩ := List.mem_map.mp member
    rw [spaced blank inside]
    rfl
  rw [Document.text, jsonGetObject_spaces _ leading, Place.cursor, behind]
  cases isRoot : document.root with
  | string str =>
      rw [isRoot] at plain
      rw [jsonGetObject_value plain (by simp)]
      rfl
  | _ => rfl

theorem valueOfPath_congr {path : List (List UInt8)} {src other : Cursor}
    (same : jsonGetObject .object src = jsonGetObject .object other) :
    valueOfPath path src = valueOfPath path other := by
  have first : ∀ name, jsonGetValueByName src name = jsonGetValueByName other name := by
    intro name
    simp only [jsonGetValueByName, jsonParseNameValue, same]
  cases path with
  | nil => rfl
  | cons name path =>
      cases path with
      | nil => exact first name
      | cons next path => simp only [valueOfPath, first]

theorem liteJsonValueOf_spaced {document : Document} (key : List UInt8) (spaced : Spaced document)
    (plain : document.root.AllStr Plain) :
    liteJsonValueOf key document.text =
      (walk document.trailing (key.splitOn point) { value := document.root, frames := [] }).map
        fun found => scanned found.value := by
  have plainPlace : Place.Plain { value := document.root, frames := [] } :=
    ⟨plain, by simp⟩
  rw [liteJsonValueOf, valueOfPath_congr (jsonGetObject_spaced spaced plain),
    valueOfPath_walk _ (List.splitOn_ne_nil _ _) plainPlace, Option.map_map]
  congr 1
  funext found
  exact take_valueCursor found.value _

theorem liteJsonValueOf_unspaced {document : Document} (key : List UInt8)
    (unspaced : ¬Spaced document) : liteJsonValueOf key document.text = none := by
  have noObject := jsonGetObject_unspaced (document.root.text ++ document.trailing.text) unspaced
  have first : ∀ name, jsonGetValueByName document.text name = none := fun name =>
    jsonGetValueByName_none name noObject
  rw [liteJsonValueOf]
  cases key.splitOn point with
  | nil => rfl
  | cons name path =>
      cases path with
      | nil => simp [valueOfPath, first]
      | cons next path => simp [valueOfPath, first]

/-- A dotted path none of whose components is a proper prefix of a member's name
is looked up in the objects it steps into exactly when it does not stray to
members outside, no blank but spaces stands in front of the root, and the value
found has no exponent. -/
theorem liteJsonValueOf_eq_iff (document : Document) (key : List UInt8)
    (plain : document.root.AllStr Plain)
    (names : ∀ name ∈ key.splitOn point, document.root.AllNames (NoProperPrefix name)) :
    liteJsonValueOf key document.text =
        (document.root.lookup (key.splitOn point)).map Value.bare ↔
      (Spaced document →
        ¬Strays document.trailing (key.splitOn point) { value := document.root, frames := [] } ∧
        ∀ value, document.root.lookup (key.splitOn point) = some value → NoExponent value) ∧
      (¬Spaced document → document.root.lookup (key.splitOn point) = none) := by
  obtain ⟨stays, strays⟩ :=
    @walk_lookup document.trailing (key.splitOn point) { value := document.root, frames := [] } names
  by_cases spaced : Spaced document
  · rw [liteJsonValueOf_spaced key spaced plain]
    simp only [spaced, true_implies, not_true_eq_false, false_implies, and_true]
    by_cases straying :
        Strays document.trailing (key.splitOn point) { value := document.root, frames := [] }
    · obtain ⟨isFound, missing⟩ := strays straying
      obtain ⟨found, isFound⟩ := Option.isSome_iff_exists.mp isFound
      simp [straying, isFound, missing]
    · have same := stays straying
      simp only [straying, not_false_eq_true, true_and]
      rw [← same]
      cases walk document.trailing (key.splitOn point)
          { value := document.root, frames := [] } with
      | none => simp
      | some found => simp [scanned_eq_bare_iff]
  · rw [liteJsonValueOf_unspaced key spaced, eq_comm, Option.map_eq_none_iff]
    simp [spaced]

/-- The text `{"a":{"x":1},"b":2}`. -/
def siblingDocument : Document where
  leading := []
  root :=
    let number (digit : Digit) : Value := .number
      { negative := false, first := digit, more := [], fraction := none, exponent := none }
    .object [] (.cons [] (.ofBytes (literal "a") rfl) [] []
      (.object [] (.cons [] (.ofBytes (literal "x") rfl) [] [] (number 1) [] .nil)) []
      (.cons [] (.ofBytes (literal "b") rfl) [] [] (number 2) [] .nil))
  trailing := []

theorem siblingDocument_plain : siblingDocument.root.AllStr Plain := by
  have plain : ∀ str : Str, str.bytes ≠ [] → (str.bytes.all fun byte => decide ¬Mark byte) →
      Plain str := fun _ nonempty checked => ⟨nonempty, noMark_of_all checked⟩
  exact ⟨plain _ (by decide) rfl, ⟨plain _ (by decide) rfl, trivial, trivial⟩,
    plain _ (by decide) rfl, trivial, trivial⟩

/-- A component of one byte is no proper prefix of a name of the document. -/
theorem siblingDocument_names (byte : UInt8) :
    siblingDocument.root.AllNames (NoProperPrefix [byte]) := by
  have whole : ∀ str : Str, str.bytes.length = 1 → NoProperPrefix [byte] str := by
    intro str single isPrefix
    exact isPrefix.eq_of_length single.symm
  exact ⟨whole _ rfl, ⟨whole _ rfl, trivial, trivial⟩, whole _ rfl, trivial, trivial⟩

/-- Inside `a` the path finds `x`. -/
theorem liteJsonValueOf_inside :
    liteJsonValueOf (literal "a.x") siblingDocument.text =
      (siblingDocument.root.lookup ((literal "a.x").splitOn point)).map Value.bare := by
  have path : (literal "a.x").splitOn point = [literal "a", literal "x"] := by decide
  refine (liteJsonValueOf_eq_iff siblingDocument (literal "a.x") siblingDocument_plain ?_).mpr
    ⟨fun _ => ⟨?_, ?_⟩, fun unspaced => absurd (fun _ inside => nomatch inside) unspaced⟩
  · rw [path]
    intro name member
    rcases List.mem_pair.mp member with rfl | rfl
    · exact siblingDocument_names _
    · exact siblingDocument_names _
  · rw [path]
    exact fun strays => strays
  · rw [path]
    rintro value isFound
    cases isFound
    rfl

/-- `b` is no member of `a`, but the member `b` that follows `a` is returned. -/
theorem liteJsonValueOf_outside :
    siblingDocument.root.AllStr Plain ∧ siblingDocument.root.UniqueNames ∧
      (∀ name ∈ (literal "a.b").splitOn point,
        siblingDocument.root.AllNames (NoProperPrefix name)) ∧
      siblingDocument.root.lookup ((literal "a.b").splitOn point) = none ∧
      liteJsonValueOf (literal "a.b") siblingDocument.text = some (literal "2") := by
  have path : (literal "a.b").splitOn point = [literal "a", literal "b"] := by decide
  have apart : siblingDocument.root.UniqueNames := by
    have different : literal "a" ≠ literal "b" := by decide
    exact ⟨by simp [Members.names, Str.ofBytes, different],
      ⟨by simp [Members.names], trivial, trivial⟩, trivial, trivial⟩
  refine ⟨siblingDocument_plain, apart, ?_, by rw [path]; rfl, by decide⟩
  rw [path]
  intro name member
  rcases List.mem_pair.mp member with rfl | rfl
  · exact siblingDocument_names _
  · exact siblingDocument_names _

end UIoT.Utils
