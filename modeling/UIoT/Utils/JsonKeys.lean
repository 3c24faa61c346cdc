import UIoT.Utils.JsonLookup
import Mathlib.Data.List.Nodup

/-!
# The keys of a document

`LITE_json_keys_of` lists the members of a document at any depth. The key of a member inside an object
is the key of the object, a point and the member's name; an object is listed in front of its members.
Texts go through arrays of 512 bytes, so what is longer is cut. Where nothing is, the keys are the dotted
paths of the document, and `LITE_json_value_of` finds under each of them what is listed
(`liteJsonKeysOf_paths`).
-/

set_option autoImplicit false

namespace UIoT.Utils

open Json

/-! ## The keys -/

/-- `TEMP_STRING_MAXLEN` -/
abbrev tempStringMaxLen : Nat := 512

/-- `LITE_format_string`: the text is written into `tmp` and copied. -/
def liteFormatString (text : List UInt8) : List UInt8 := text.take (tempStringMaxLen - 1)

/-- `LITE_json_keys_of` behind a prefix, for objects that are nested so many times: the keys of the
entries, in the order in which they are appended to the list. -/
def keysFrom : Nat → Cursor → List UInt8 → List (List UInt8)
  | 0, _, _ => []
  | depth + 1, src, pre =>
      (jsonParseNameValue src).flatMap fun entry =>
        let key := entry.key.take entry.keyLen
        liteFormatString (pre ++ key) ::
          if entry.type = .object then
            keysFrom depth (liteFormatString (entry.value.take entry.valueLen))
              (liteFormatString (pre ++ key ++ [point]))
          else []

/-- `LITE_json_keys_of` with an empty prefix: an entry without a key ends the list. An object is shorter
than what it is nested in, so no text has more levels than bytes. -/
def liteJsonKeysOf (src : Cursor) : List (Option (List UInt8)) :=
  (keysFrom src.length src []).map some ++ [none]

example : liteJsonKeysOf (literal "\x7b\"a\":\x7b\"x\":1,\"y\":[2]\x7d,\"b\":3\x7d") =
    [some (literal "a"), some (literal "a.x"), some (literal "a.y"), some (literal "b"), none] := by
  decide +kernel

/-! ## The paths -/

mutual

/-- The paths to the members of a value, each object in front of its members. -/
def Value.paths : Value → List (List (List UInt8))
  | .object _ members => Members.paths members
  | _ => []

@[inherit_doc Value.paths]
def Members.paths : Members → List (List (List UInt8))
  | .nil => []
  | .cons _ name _ _ value _ rest =>
      [name.bytes] :: (Value.paths value).map (name.bytes :: ·) ++ Members.paths rest

end

/-- The names of a path with points between them. -/
def dotted (path : List (List UInt8)) : List UInt8 := [point].intercalate path

mutual

/-- Nothing that is written about a value behind a prefix of some length is cut. -/
def Value.Fits (pre : Nat) : Value → Prop
  | .object blanks members =>
      pre < tempStringMaxLen ∧ (Value.object blanks members).text.length < tempStringMaxLen ∧
        Members.Fits pre members
  | _ => True

@[inherit_doc Value.Fits]
def Members.Fits (pre : Nat) : Members → Prop
  | .nil => True
  | .cons _ name _ _ value _ rest =>
      pre + name.bytes.length < tempStringMaxLen ∧ Value.Fits (pre + name.bytes.length + 1) value ∧
        Members.Fits pre rest

end

theorem liteFormatString_short {text : List UInt8} (short : text.length < tempStringMaxLen) :
    liteFormatString text = text :=
  List.take_of_length_le (Nat.le_sub_one_of_lt short)

/-! ## The keys are the paths -/

theorem dotted_single (name : List UInt8) : dotted [name] = name := by
  simp [dotted, List.intercalate, List.intersperse]

theorem dotted_cons (name : List UInt8) {path : List (List UInt8)} (more : path ≠ []) :
    dotted (name :: path) = name ++ [point] ++ dotted path := by
  cases path with
  | nil => exact absurd rfl more
  | cons next path => simp [dotted, List.intercalate, List.intersperse]

mutual

theorem Value.paths_ne_nil : (value : Value) → ∀ path ∈ Value.paths value, path ≠ []
  | .object _ members => Members.paths_ne_nil members
  | .string _ | .number _ | .true | .false | .null | .array _ _ => by simp [Value.paths]

theorem Members.paths_ne_nil : (members : Members) → ∀ path ∈ Members.paths members, path ≠ []
  | .nil, _, among => by cases among
  | .cons _ name _ _ value _ rest, path, among => by
      simp only [Members.paths, List.cons_append, List.mem_cons, List.mem_append, List.mem_map] at among
      rcases among with rfl | ⟨inner, _, rfl⟩ | later
      · exact List.cons_ne_nil _ _
      · exact List.cons_ne_nil _ _
      · exact Members.paths_ne_nil rest path later

end

theorem Members.text_value (before : Blanks) (name : Str) (beforeColon afterColon : Blanks) (value : Value)
    (after : Blanks) (rest : Members) :
    value.text.length + rest.text.length ≤
      (Members.cons before name beforeColon afterColon value after rest).text.length := by
  simp only [Members.text, List.length_append, List.length_cons]
  omega

/-- What is listed for the members of an object, when one level less lists the objects among them. -/
theorem keysFrom_members {depth : Nat}
    (deeper : ∀ blanks members (pre : List UInt8), Members.AllStr Plain members →
      Value.Fits pre.length (.object blanks members) →
      (Value.object blanks members).text.length ≤ depth →
      keysFrom depth (Value.object blanks members).text pre =
        (Members.paths members).map (pre ++ dotted ·))
    (trailing : Blanks) (frames : List Frame) (pre : List UInt8) : (members : Members) →
      members.AllStr Plain → Members.Fits pre.length members → members.text.length ≤ depth →
      ((Members.sightings trailing frames members).map (Sighting.entry trailing)).flatMap (fun entry =>
        liteFormatString (pre ++ entry.key.take entry.keyLen) ::
          if entry.type = .object then
            keysFrom depth (liteFormatString (entry.value.take entry.valueLen))
              (liteFormatString (pre ++ entry.key.take entry.keyLen ++ [point]))
          else []) = (Members.paths members).map (pre ++ dotted ·)
  | .nil, _, _, _ => rfl
  | .cons before name beforeColon afterColon value after rest, plain, fits, within => by
      have sizes := Members.text_value before name beforeColon afterColon value after rest
      have further := keysFrom_members deeper trailing frames pre rest plain.2.2 fits.2.2
        (by omega)
      have isName : (nameCursor name beforeColon afterColon value
          (behind trailing ({ after := after, rest := rest } :: frames))).take name.bytes.length =
            name.bytes := List.take_left
      have isShort : liteFormatString (pre ++ name.bytes) = pre ++ name.bytes :=
        liteFormatString_short (by rw [List.length_append]; exact fits.1)
      have inside : (if valueType value = .object then
          keysFrom depth (liteFormatString (scanned value))
            (liteFormatString (pre ++ name.bytes ++ [point])) else []) =
            ((Value.paths value).map (name.bytes :: ·)).map (pre ++ dotted ·) := by
        cases value with
        | object blanks members =>
            have long : (pre ++ name.bytes ++ [point]).length = pre.length + name.bytes.length + 1 := by
              simp [Nat.add_assoc]
            have nested := fits.2.1
            have isObject : valueType (.object blanks members) = .object := rfl
            have isText : scanned (.object blanks members) = (Value.object blanks members).text := rfl
            rw [if_pos isObject, isText, liteFormatString_short nested.2.1,
              liteFormatString_short (by rw [long]; exact nested.1),
              deeper blanks members _ plain.2.1 (by rw [long]; exact nested) (by omega), List.map_map]
            refine List.map_congr_left fun path among => ?_
            rw [Function.comp, dotted_cons name.bytes (Members.paths_ne_nil members path among)]
            simp only [List.append_assoc]
        | _ => rfl
      simp only [Members.sightings, List.map_cons, List.flatMap_cons, Sighting.entry, entryFor, isName,
        take_valueCursor, isShort, Members.paths, List.map_append, List.cons_append, inside, dotted_single]
      exact congrArg (fun keys => _ :: (_ ++ keys)) further

/-- The keys of an object are its paths behind the prefix. -/
theorem keysFrom_object {depth : Nat} : ∀ {trailing : Blanks} {blanks : Blanks} {members : Members}
    {src : Cursor} (pre : List UInt8), members.AllStr Plain →
      Members.Fits pre.length members → members.text.length < depth →
      jsonGetObject .object src = jsonGetObject .object
        (Place.cursor trailing { value := .object blanks members, frames := [] }) →
      keysFrom depth src pre = (Members.paths members).map (pre ++ dotted ·) := by
  induction depth with
  | zero => exact fun _ _ _ within => absurd within (Nat.not_lt_zero _)
  | succ depth ih =>
      intro trailing blanks members src pre plain fits within same
      have plainPlace : Place.Plain { value := .object blanks members, frames := [] } :=
        ⟨plain, fun _ among => absurd among List.not_mem_nil⟩
      have entries : jsonParseNameValue src =
          (Members.sightings trailing [] members).map (Sighting.entry trailing) := by
        have seen := @jsonParseNameValue_place trailing _ plainPlace
        simp only [Place.sightings, followers, List.append_nil] at seen
        rw [← seen]
        simp only [jsonParseNameValue, same]
      rw [keysFrom, entries]
      refine keysFrom_members (fun blanks members pre plain fits within => ?_) trailing [] pre members
        plain fits (Nat.le_of_lt_succ within)
      refine @ih [] blanks members _ pre plain fits.2.2 ?_ ?_
      · simp only [Value.text, List.length_append, List.length_cons, List.length_nil] at within
        omega
      · simp [Place.cursor, valueCursor, behind, Blanks.text]

theorem liteJsonKeysOf_document {document : Document} {blanks : Blanks} {members : Members}
    (isRoot : document.root = .object blanks members) (spaced : Spaced document)
    (plain : document.root.AllStr Plain) (fits : Members.Fits 0 members) :
    liteJsonKeysOf document.text = ((Members.paths members).map dotted).map some ++ [none] := by
  have same := jsonGetObject_spaced spaced plain
  rw [isRoot] at same plain
  have within : members.text.length < document.text.length := by
    simp only [Document.text, isRoot, Value.text, List.length_append, List.length_cons,
      List.length_nil]
    omega
  rw [liteJsonKeysOf, keysFrom_object [] plain fits within same]
  rfl

/-! ## The paths and the lookup -/

theorem Members.find_mem {name : List UInt8} {found : Value × Blanks × Members} :
    {members : Members} → members.find name = some found → name ∈ members.names
  | .nil, result => by cases result
  | .cons _ first _ _ _ _ rest, result => by
      by_cases same : first.bytes = name
      · exact List.mem_cons.mpr (.inl same.symm)
      · rw [Members.find, if_neg same] at result
        exact List.mem_cons_of_mem _ (Members.find_mem result)

mutual

/-- The paths of a value are those that the lookup follows. -/
theorem Value.mem_paths : (value : Value) → value.UniqueNames → (path : List (List UInt8)) →
    (path ∈ Value.paths value ↔ path ≠ [] ∧ (value.lookup path).isSome)
  | .object blanks members, unique, path => by
      rw [Value.paths, Members.mem_paths members unique.1 unique.2 path]
      constructor
      · rintro ⟨name, inner, found, rfl, isFound, leads⟩
        refine ⟨List.cons_ne_nil _ _, ?_⟩
        simpa only [Value.lookup, isFound] using leads
      · rintro ⟨nonempty, leads⟩
        obtain ⟨name, inner, rfl⟩ := List.exists_cons_of_ne_nil nonempty
        cases isFound : members.find name with
        | none => simp [Value.lookup, isFound] at leads
        | some found => exact ⟨name, inner, found, rfl, isFound, by simpa [Value.lookup, isFound] using leads⟩
  | .string _, _, path | .number _, _, path | .true, _, path | .false, _, path | .null, _, path
  | .array _ _, _, path => by
      cases path <;> simp [Value.paths, Value.lookup]

theorem Members.mem_paths : (members : Members) → members.names.Nodup → members.UniqueNames →
    (path : List (List UInt8)) → (path ∈ Members.paths members ↔ ∃ name inner found,
      path = name :: inner ∧ members.find name = some found ∧ (found.1.lookup inner).isSome)
  | .nil, _, _, path => by simp [Members.paths, Members.find]
  | .cons _ first _ _ value after rest, once, unique, path => by
      have others := Members.mem_paths rest (List.nodup_cons.mp once).2 unique.2 path
      have inside := Value.mem_paths value unique.1
      simp only [Members.paths, List.cons_append, List.mem_cons, List.mem_append, List.mem_map, others]
      constructor
      · rintro (rfl | ⟨inner, among, rfl⟩ | ⟨name, inner, found, rfl, isFound, leads⟩)
        · exact ⟨_, [], (value, after, rest), rfl, by rw [Members.find, if_pos rfl], rfl⟩
        · exact ⟨_, inner, (value, after, rest), rfl, by rw [Members.find, if_pos rfl],
            ((inside inner).mp among).2⟩
        · have other : first.bytes ≠ name := by
            rintro rfl
            exact (List.nodup_cons.mp once).1 (Members.find_mem isFound)
          exact ⟨name, inner, found, rfl, by rw [Members.find, if_neg other, isFound], leads⟩
      · rintro ⟨name, inner, found, rfl, isFound, leads⟩
        by_cases same : first.bytes = name
        · rw [Members.find, if_pos same] at isFound
          cases isFound
          cases inner with
          | nil => exact .inl (by rw [same])
          | cons next inner =>
              exact .inr (.inl ⟨_, (inside _).mpr ⟨List.cons_ne_nil _ _, leads⟩, by rw [same]⟩)
        · rw [Members.find, if_neg same] at isFound
          exact .inr (.inr ⟨name, inner, found, rfl, isFound, leads⟩)

end

mutual

theorem Value.paths_nodup : (value : Value) → value.UniqueNames → (Value.paths value).Nodup
  | .object _ members, unique => Members.paths_nodup members unique.1 unique.2
  | .string _, _ | .number _, _ | .true, _ | .false, _ | .null, _ | .array _ _, _ => List.nodup_nil

theorem Members.paths_nodup : (members : Members) → members.names.Nodup → members.UniqueNames →
    (Members.paths members).Nodup
  | .nil, _, _ => List.nodup_nil
  | .cons _ first _ _ value _ rest, once, unique => by
      have inner : ((Value.paths value).map (first.bytes :: ·)).Nodup :=
        List.Nodup.map List.cons_injective (Value.paths_nodup value unique.1)
      have outer := Members.paths_nodup rest (List.nodup_cons.mp once).2 unique.2
      have elsewhere : ∀ path, first.bytes :: path ∉ Members.paths rest := by
        intro path among
        obtain ⟨name, _, found, same, isFound, _⟩ :=
          (Members.mem_paths rest (List.nodup_cons.mp once).2 unique.2 _).mp among
        cases same
        exact (List.nodup_cons.mp once).1 (Members.find_mem isFound)
      refine List.nodup_cons.mpr ⟨?_, List.nodup_append.mpr ⟨inner, outer, ?_⟩⟩
      · intro among
        rcases List.mem_append.mp among with here | later
        · obtain ⟨path, within, same⟩ := List.mem_map.mp here
          cases same
          exact Value.paths_ne_nil value [] within rfl
        · exact elsewhere [] later
      · rintro path here _ later rfl
        obtain ⟨inside, _, rfl⟩ := List.mem_map.mp here
        exact elsewhere inside later

end

theorem Members.find_name {P : Str → Prop} {name : List UInt8} {found : Value × Blanks × Members} :
    (members : Members) → members.AllNames P → members.find name = some found →
      ∃ str : Str, str.bytes = name ∧ P str
  | .nil, _, result => by cases result
  | .cons _ first _ _ _ _ rest, names, result => by
      by_cases same : first.bytes = name
      · exact ⟨first, same, names.1⟩
      · rw [Members.find, if_neg same] at result
        exact Members.find_name rest names.2.2 result

/-- The names of a path that leads somewhere are names of members. -/
theorem Value.lookup_names {P : Str → Prop} (path : List (List UInt8)) : ∀ {value found : Value},
    value.AllNames P → value.lookup path = some found →
      ∀ name ∈ path, ∃ str : Str, str.bytes = name ∧ P str := by
  induction path with
  | nil => exact fun _ _ _ among => absurd among List.not_mem_nil
  | cons first path ih =>
      intro value found names leads name among
      cases value with
      | object blanks members =>
          cases isFound : members.find first with
          | none => simp [Value.lookup, isFound] at leads
          | some step =>
              have further : step.1.lookup path = some found := by
                simpa [Value.lookup, isFound] using leads
              rcases List.mem_cons.mp among with rfl | later
              · exact Members.find_name members names isFound
              · exact ih (Members.AllNames.find names isFound) further name later
      | _ => cases leads

/-- The text of a document whose names have no point and begin no other name lists every member once:
a key is listed exactly when its path leads to a value, and that value is what it finds. -/
theorem liteJsonKeysOf_paths (document : Document) (blanks : Blanks) (members : Members)
    (isRoot : document.root = .object blanks members) (spaced : Spaced document)
    (plain : document.root.AllStr Plain) (fits : Members.Fits 0 members)
    (unique : document.root.UniqueNames) (noPoint : document.root.AllNames fun str => point ∉ str.bytes)
    (apart : document.root.AllNames fun str => document.root.AllNames (NoProperPrefix str.bytes)) :
    ∃ keys : List (List UInt8), liteJsonKeysOf document.text = keys.map some ++ [none] ∧ keys.Nodup ∧
      ∀ key, key ∈ keys ↔ ∃ value, document.root.lookup (key.splitOn point) = some value ∧
        liteJsonValueOf key document.text = some (scanned value) := by
  -- A path that leads somewhere is read back from its key, and the walk does not stray from it.
  have split : ∀ path value, path ≠ [] → document.root.lookup path = some value →
      (dotted path).splitOn point = path := fun path value nonempty leads =>
    List.splitOn_intercalate point (fun name among => by
      obtain ⟨str, rfl, clean⟩ := Value.lookup_names path noPoint leads name among
      exact clean) nonempty
  have finds : ∀ key value, document.root.lookup (key.splitOn point) = some value →
      liteJsonValueOf key document.text = some (scanned value) := by
    intro key value leads
    have names : ∀ name ∈ key.splitOn point, document.root.AllNames (NoProperPrefix name) := by
      intro name among
      obtain ⟨str, rfl, clean⟩ := Value.lookup_names _ apart leads name among
      exact clean
    obtain ⟨stays, strays⟩ :=
      @walk_lookup document.trailing (key.splitOn point) { value := document.root, frames := [] } names
    have same := stays fun straying => by
      have missing := (strays straying).2
      exact absurd (missing.symm.trans leads) (by simp)
    rw [leads, Option.map_eq_some_iff] at same
    obtain ⟨found, isFound, rfl⟩ := same
    rw [liteJsonValueOf_spaced key spaced plain, isFound]
    rfl
  have listed : ∀ path, path ∈ Members.paths members ↔
      path ≠ [] ∧ (document.root.lookup path).isSome := by
    intro path
    have mem := Value.mem_paths document.root unique path
    rwa [isRoot, Value.paths, ← isRoot] at mem
  refine ⟨(Members.paths members).map dotted,
    liteJsonKeysOf_document isRoot spaced plain fits, ?_, fun key => ?_⟩
  · have once : (Members.paths members).Nodup := by
      have outer := Value.paths_nodup document.root unique
      rwa [isRoot] at outer
    refine List.Nodup.map_on (fun path among other amongOther same => ?_) once
    obtain ⟨nonempty, leads⟩ := (listed path).mp among
    obtain ⟨otherNonempty, otherLeads⟩ := (listed other).mp amongOther
    obtain ⟨value, leads⟩ := Option.isSome_iff_exists.mp leads
    obtain ⟨otherValue, otherLeads⟩ := Option.isSome_iff_exists.mp otherLeads
    rw [← split path value nonempty leads, same, split other otherValue otherNonempty otherLeads]
  · rw [List.mem_map]
    constructor
    · rintro ⟨path, among, rfl⟩
      obtain ⟨nonempty, leads⟩ := (listed path).mp among
      obtain ⟨value, leads⟩ := Option.isSome_iff_exists.mp leads
      rw [← split path value nonempty leads] at leads
      exact ⟨value, leads, finds _ value leads⟩
    · rintro ⟨value, leads, _⟩
      exact ⟨_, (listed _).mpr ⟨List.splitOn_ne_nil _ _, by rw [leads]; rfl⟩,
        List.intercalate_splitOn point⟩

/-- The keys `a`, `a.x` and `b`. -/
theorem liteJsonKeysOf_siblings :
    ∃ keys : List (List UInt8), liteJsonKeysOf siblingDocument.text = keys.map some ++ [none] ∧
      keys.Nodup ∧ ∀ key, key ∈ keys ↔
        ∃ value, siblingDocument.root.lookup (key.splitOn point) = some value ∧
          liteJsonValueOf key siblingDocument.text = some (scanned value) := by
  have different : literal "a" ≠ literal "b" := by decide
  refine liteJsonKeysOf_paths siblingDocument _ _ rfl (fun _ inside => absurd inside List.not_mem_nil)
    siblingDocument_plain ⟨by decide, ⟨by decide, by decide, ⟨by decide, trivial, trivial⟩⟩, by decide,
      trivial, trivial⟩ ?_ ?_ ?_
  · exact ⟨by simp [Members.names, Str.ofBytes, different],
      ⟨by simp [Members.names], trivial, trivial⟩, trivial, trivial⟩
  · exact ⟨by decide, ⟨by decide, trivial, trivial⟩, by decide, trivial, trivial⟩
  · exact ⟨siblingDocument_names _, ⟨siblingDocument_names _, trivial, trivial⟩,
      siblingDocument_names _, trivial, trivial⟩

end UIoT.Utils
