import Mathlib.Data.List.Forall2
import Relift.Proofs.BlockList
import Relift.Proofs.Records

/-!
# The order of block lists

Block addresses are to ascend strictly.  Nothing in a `BlockList` itself says
so; it depends on where the list comes from.  A list made from given addresses
is brought into order, and the list that nobody filled has nothing to be out of
order.  A list that is read from a text is not brought into order: it has the
numbers of the text as they stand there (`ofJson?_eq_some_iff`).  So it ascends
just if they do, and since every list can be written, every list can be read.

## Main result

* `BlockList.ascending_iff_origin_ascends` — which lists are in order, by where
  they come from.
-/

namespace Relift

namespace Json

/-- A row of items is found just if each of them is. -/
theorem mapM_eq_some_iff {α β : Type} {read? : α → Option β} {items : List α}
    {found : List β} :
    items.mapM read? = some found ↔
      List.Forall₂ (fun item value => read? item = some value) items found := by
  induction items generalizing found with
  | nil =>
      rw [List.mapM_nil, List.forall₂_nil_left_iff]
      exact Option.some_inj.trans eq_comm
  | cons item items ih =>
      rw [List.mapM_cons]
      constructor
      · intro h
        obtain ⟨value, hvalue, h⟩ := Option.bind_eq_some_iff.mp h
        obtain ⟨values, hvalues, h⟩ := Option.bind_eq_some_iff.mp h
        cases h
        exact .cons hvalue (ih.mp hvalues)
      · intro h
        cases h with
        | cons hvalue hvalues =>
            rw [hvalue, ih.mpr hvalues]
            rfl

/-- A number of 64 bits, written in digits alone. -/
inductive Word : Json → UInt64 → Prop where
  | digits {literal : List Char} {word : UInt64}
      (h : Text.Digits literal word.toNat) : Word (.number literal) word

/-- A literal with a sign gives no word, since a sign is no digit. -/
theorem asWord?_eq_some_iff {value : Json} {word : UInt64} :
    asWord? value = some word ↔ Word value word := by
  constructor
  · intro h
    unfold asWord? at h
    split at h
    next literal =>
      split at h
      next hdigits =>
        cases Text.wordOfDecimal?_eq_some_iff.mp h with
        | unsigned hrow => exact .digits hrow
        | signed hrow =>
            rw [List.all_cons] at hdigits
            cases hdigits
      next => cases h
    next => cases h
  · rintro ⟨hrow⟩
    have hdigits := List.all_eq_true.mpr hrow.isDigit
    unfold asWord?
    dsimp only
    rw [if_pos hdigits]
    exact Text.wordOfDecimal?_eq_some_iff.mpr (.unsigned hrow)

theorem Word.unique {value : Json} {word other : UInt64} (h : Word value word)
    (h' : Word value other) : word = other :=
  Option.some.inj ((asWord?_eq_some_iff.mpr h).symm.trans
    (asWord?_eq_some_iff.mpr h'))

/-- A record in which a key has a content: an object that gives the key once,
or the array of the content alone. -/
inductive HasField (key : String) : Json → Json → Prop where
  | array {content : Json} : HasField key (.array [content]) content
  | record {before after : List (String × Json)} {content : Json}
      (hbefore : ∀ member ∈ before, member.1 ≠ key)
      (hafter : ∀ member ∈ after, member.1 ≠ key) :
      HasField key (.record (before ++ (key, content) :: after)) content

/-- Members whose keys are texts. -/
theorem named_eq_some_iff {members : List (Option String × Json)}
    {named : List (String × Json)} :
    members.mapM (fun (key, value) => key.map fun key => (key, value)) =
        some named ↔
      members = named.map fun (key, value) => (some key, value) := by
  rw [mapM_eq_some_iff, ← List.forall₂_eq_eq_eq, List.forall₂_map_right_iff]
  have hmember : ∀ (member : Option String × Json) (name : String × Json),
      (member.1.map fun key => (key, member.2)) = some name ↔
        member = (some name.1, name.2) := by
    rintro ⟨key, value⟩ ⟨name, value'⟩
    cases key <;> simp
  simp only [hmember]

theorem filter_key_eq_singleton_iff {named : List (String × Json)}
    {key : String} {member : String × Json} :
    (named.filter fun member => member.1 == key) = [member] ↔
      ∃ before after, named = before ++ member :: after ∧ member.1 = key ∧
        (∀ other ∈ before, other.1 ≠ key) ∧
        ∀ other ∈ after, other.1 ≠ key := by
  rw [List.filter_eq_cons_iff]
  simp only [List.filter_eq_nil_iff, beq_iff_eq]
  constructor
  · rintro ⟨before, after, rfl, hbefore, hkey, hafter⟩
    exact ⟨before, after, rfl, hkey, hbefore, hafter⟩
  · rintro ⟨before, after, rfl, hkey, hbefore, hafter⟩
    exact ⟨before, after, rfl, hbefore, hkey, hafter⟩

/-- What a record of one field is read as. -/
theorem asRecord?_eq_some_iff {key : String} {value content : Json} :
    asRecord? [key] value = some [some content] ↔
      HasField key value content := by
  constructor
  · intro h
    cases value with
    | object members =>
        obtain ⟨named, hnamed, h⟩ := Option.bind_eq_some_iff.mp h
        cases mapM_eq_some_iff.mp h with
        | cons hfield _ =>
            split at hfield
            next => cases hfield
            next member hfilter =>
              cases hfield
              obtain ⟨before, after, rfl, rfl, hbefore, hafter⟩ :=
                filter_key_eq_singleton_iff.mp hfilter
              rw [named_eq_some_iff.mp hnamed]
              exact .record hbefore hafter
            next => cases hfield
    | array elements =>
        cases elements with
        | nil => cases h
        | cons first rest =>
            cases rest with
            | nil =>
                cases h
                exact .array
            | cons second rest =>
                rw [asRecord?, if_neg (by simp)] at h
                cases h
    | _ => cases h
  · intro h
    cases h with
    | array => rfl
    | @record before after _ hbefore hafter =>
        have hfilter : ((before ++ (key, content) :: after).filter
            fun member => member.1 == key) = [(key, content)] :=
          filter_key_eq_singleton_iff.mpr
            ⟨before, after, rfl, rfl, hbefore, hafter⟩
        refine Option.bind_eq_some_iff.mpr ⟨_, named_eq_some_iff.mpr rfl,
          mapM_eq_some_iff.mpr (.cons ?_ .nil)⟩
        rw [hfilter]

theorem HasField.unique {key : String} {value : Json} {elements others : List Json}
    (h : HasField key value (.array elements))
    (h' : HasField key value (.array others)) : elements = others := by
  have hsame := (asRecord?_eq_some_iff.mpr h).symm.trans
    (asRecord?_eq_some_iff.mpr h')
  cases hsame
  rfl

end Json

namespace BlockList

open Json (Word HasField readText?)

theorem asList?_asWord?_eq_some_iff {content : Json}
    {addresses : List Address} :
    Json.asList? Json.asWord? content = some addresses ↔
      ∃ elements, content = .array elements ∧
        List.Forall₂ Word elements addresses := by
  constructor
  · intro h
    cases content with
    | array elements =>
        exact ⟨elements, rfl, (Json.mapM_eq_some_iff.mp h).imp
          fun _ _ => Json.asWord?_eq_some_iff.mp⟩
    | _ => cases h
  · rintro ⟨elements, rfl, h⟩
    exact Json.mapM_eq_some_iff.mpr
      (h.imp fun _ _ => Json.asWord?_eq_some_iff.mpr)

/-- A list is read as the numbers of its one field, in their order. -/
theorem ofJson?_eq_some_iff {value : Json} {blocks : BlockList} :
    ofJson? value = some blocks ↔
      ∃ elements, HasField "addresses" value (.array elements) ∧
        List.Forall₂ Word elements blocks.addresses := by
  constructor
  · intro h
    obtain ⟨fields, hfields, h⟩ := Option.bind_eq_some_iff.mp h
    split at h
    next field =>
      obtain ⟨addresses, haddresses, rfl⟩ := Option.map_eq_some_iff.mp h
      cases field with
      | none => cases haddresses
      | some content =>
          obtain ⟨elements, rfl, hwords⟩ :=
            asList?_asWord?_eq_some_iff.mp haddresses
          exact ⟨elements, Json.asRecord?_eq_some_iff.mp hfields, hwords⟩
    next => cases h
  · rintro ⟨elements, hfield, hwords⟩
    refine Option.bind_eq_some_iff.mpr
      ⟨_, Json.asRecord?_eq_some_iff.mpr hfield, ?_⟩
    exact Option.map_eq_some_iff.mpr
      ⟨_, asList?_asWord?_eq_some_iff.mpr ⟨elements, rfl, hwords⟩, rfl⟩

/-- Numbers ascend as they are written. -/
theorem pairwise_iff_of_words {elements : List Json} {addresses : List Address}
    (h : List.Forall₂ Word elements addresses) :
    addresses.Pairwise (· < ·) ↔ elements.Pairwise fun first second =>
      ∃ a b, Word first a ∧ Word second b ∧ a < b := by
  obtain ⟨hlength, hwords⟩ := List.forall₂_iff_get.mp h
  rw [List.pairwise_iff_getElem, List.pairwise_iff_getElem]
  constructor
  · intro hascending i j hi hj hij
    exact ⟨_, _, hwords i hi (hlength ▸ hi), hwords j hj (hlength ▸ hj),
      hascending i j (hlength ▸ hi) (hlength ▸ hj) hij⟩
  · intro hascending i j hi hj hij
    obtain ⟨a, b, ha, hb, hlt⟩ :=
      hascending i j (hlength ▸ hi) (hlength ▸ hj) hij
    rw [ha.unique (hwords i (hlength ▸ hi) hi),
      hb.unique (hwords j (hlength ▸ hj) hj)] at hlt
    exact hlt

/-- Where a list comes from. -/
inductive Origin where
  | given (addresses : List Address)
  /-- Nobody filled the list. -/
  | unfilled
  | read (text : String)

namespace Origin

/-- The list that an origin gives, if it is not refused. -/
def blocks? : Origin → Option BlockList
  | .given addresses => some (.ofList addresses)
  | .unfilled => some default
  | .read text => readText? ofJson? text

/-- A text has its numbers in strictly ascending order; nothing is asked of given
addresses. -/
def Ascends : Origin → Prop
  | .read text => ∃ value elements, Json.parse? text = some value ∧
    HasField "addresses" value (.array elements) ∧
    elements.Pairwise fun first second =>
      ∃ a b, Word first a ∧ Word second b ∧ a < b
  | _ => True

theorem blocks?_read_iff {text : String} {blocks : BlockList} :
    (read text).blocks? = some blocks ↔
      ∃ value elements, Json.parse? text = some value ∧
        HasField "addresses" value (.array elements) ∧
        List.Forall₂ Word elements blocks.addresses := by
  show (Json.parse? text).bind ofJson? = some blocks ↔ _
  rw [Option.bind_eq_some_iff]
  simp only [ofJson?_eq_some_iff, exists_and_left]

end Origin

/-- A list of given addresses ascends strictly, and so does the list that nobody
filled.  A list that is read from a text has the numbers of the text in their
order, and ascends just if they do: it is not brought into order.  And there is
no list, whatever its order, that cannot be read. -/
theorem ascending_iff_origin_ascends (origin : Origin) (blocks : BlockList)
    (h : origin.blocks? = some blocks) :
    (blocks.addresses.Pairwise (· < ·) ↔ origin.Ascends) ∧
    (∀ text, origin = .read text →
      ∃ value elements, Json.parse? text = some value ∧
        HasField "addresses" value (.array elements) ∧
        List.Forall₂ Word elements blocks.addresses) ∧
    ∀ other, ∃ text, (Origin.read text).blocks? = some other := by
  refine ⟨?_, ?_, fun other => ⟨Json.compact other.toJson, ?_⟩⟩
  · cases origin with
    | given addresses =>
        cases h
        exact iff_of_true (pairwise_ofList addresses) trivial
    | unfilled =>
        cases h
        exact iff_of_true List.Pairwise.nil trivial
    | read text =>
        obtain ⟨value, elements, hvalue, hfield, hwords⟩ :=
          Origin.blocks?_read_iff.mp h
        rw [pairwise_iff_of_words hwords]
        constructor
        · intro hascending
          exact ⟨value, elements, hvalue, hfield, hascending⟩
        · rintro ⟨value', elements', hvalue', hfield', hascending⟩
          cases hvalue.symm.trans hvalue'
          cases hfield.unique hfield'
          exact hascending
  · rintro text rfl
    exact Origin.blocks?_read_iff.mp h
  · show readText? ofJson? (Json.compact other.toJson) = some other
    rw [Json.readText?_compact other.plain_toJson, ofJson?_toJson]

/-- A text with descending and repeated numbers is accepted, and the list that it
gives is as little in order as its numbers are. -/
theorem unordered_text_accepted :
    let origin := Origin.read "\x7b\"addresses\":[48,16,16]\x7d"
    origin.blocks? = some ⟨[48, 16, 16]⟩ ∧
    ¬ ([48, 16, 16] : List Address).Pairwise (· < ·) ∧ ¬ origin.Ascends ∧
    (Origin.given [48, 16, 16]).blocks? = some ⟨[16, 48]⟩ := by
  intro origin
  have htext : Json.compact (toJson ⟨[48, 16, 16]⟩) =
      "\x7b\"addresses\":[48,16,16]\x7d" := by
    decide
  have hread : origin.blocks? = some ⟨[48, 16, 16]⟩ := by
    show readText? ofJson? "\x7b\"addresses\":[48,16,16]\x7d" = _
    rw [← htext, Json.readText?_compact (plain_toJson _), ofJson?_toJson]
  have hunordered : ¬ ([48, 16, 16] : List Address).Pairwise (· < ·) := by
    decide
  obtain ⟨hascends, -, -⟩ :=
    ascending_iff_origin_ascends origin ⟨[48, 16, 16]⟩ hread
  exact ⟨hread, hunordered, fun horigin => hunordered (hascends.mpr horigin),
    by decide⟩

end BlockList

end Relift
