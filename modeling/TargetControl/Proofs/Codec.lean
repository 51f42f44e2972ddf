import TargetControl.Decode.Record
import TargetControl.Proofs.Scanned

/-!
Data forms: how values are read from texts and written as texts.

A value recovers when reading its own text gives it.  A form is canonical when whatever a text gives
recovers, so that reading and writing settle after one turn, however the first text was laid out.

A value recovers if its numbers are whole and it is read from its own draft.  For a record the
latter goes field by field, and so does what all values that are read have in common.
-/

namespace TargetControl

open Json (Draft Ending)
open Decode

/-- A data form: how a value is read from a draft, and what is written for it. -/
structure Codec (α : Type) where
  decode : Draft → Result α
  toJson : α → Json

namespace Codec

variable {α : Type} (c : Codec α)

/-- Reads a value from a whole text. -/
def parse (s : String) : Result α := document c.decode s

def print (v : α) : String := (c.toJson v).text

/-- A value is what its own text gives. -/
def Recovers (v : α) : Prop := c.parse (c.print v) = .ok v

/-- What a text gives is written as a text that gives it again, and is written as that text. -/
def Canonical (plain : α → Prop) : Prop :=
  ∀ s v, c.parse s = .ok v → plain v →
    ∃ w, c.parse (c.print v) = .ok w ∧ w = v ∧ c.print w = c.print v

variable {c}

theorem recovers_of_decode {decode : Draft → Result α} {toJson : α → Json} {v : α}
    (hnumbers : ∀ n ∈ (toJson v).numbers, n.IsWhole) (hdecode : decode (.ofJson (toJson v)) = .ok v) :
    Recovers ⟨decode, toJson⟩ v := by
  have hscan : Json.scan (print ⟨decode, toJson⟩ v).toList = ⟨.ofJson (toJson v), true⟩ := by
    rw [print, Json.text, String.toList_ofList]
    exact Json.scan_write hnumbers
  rw [Recovers, parse, document, hscan]
  simp only [hdecode]
  rfl

theorem canonical_of_recovers {plain : α → Prop}
    (h : ∀ d v, d.Fits → c.decode d = .ok v → plain v → c.Recovers v) : c.Canonical plain := by
  intro s v hparse hplain
  obtain ⟨w, hdecode, hcomplete⟩ := ok_of_bind hparse
  have hvalue : w = v := by
    split at hcomplete
    · exact Except.ok.inj hcomplete
    · cases hcomplete
  rw [hvalue] at hdecode
  exact ⟨v, h _ v (Json.fits_scan _) hdecode hplain, rfl, rfl⟩

end Codec

namespace Decode

/-! ## Scalars -/

theorem wrongType_ne_ok {α : Type} (expected : String) (d : Draft) (a : α) :
    wrongType expected d ≠ .ok a := by
  cases d <;> exact nofun

theorem ok_of_lift {α : Type} {r : Except Json.Flaw α} {a : α} (h : lift r = .ok a) : r = .ok a := by
  cases r with
  | error flaw => cases h
  | ok b => exact congrArg Except.ok (Except.ok.inj h)

theorem unsigned_ofNat {n bits : Nat} (h : n < 2 ^ bits) (expected : String) :
    unsigned bits expected (.ofJson (.ofNat n)) = .ok n := by
  have hrange : (0 : Int) ≤ n ∧ (n : Int) < Nat.pow 2 bits := ⟨by omega, by exact_mod_cast h⟩
  show (if (0 : Int) ≤ n ∧ (n : Int) < Nat.pow 2 bits then _ else _) = _
  rw [if_pos hrange]
  rfl

theorem list_ofNat {α : Type} (toNat : α → Nat) (bits : Nat) (expected : String)
    (h : ∀ a, toNat a < 2 ^ bits) (values : List α) :
    list (unsigned bits expected) (.ofJson (.array (values.map fun a => .ofNat (toNat a)))) =
      .ok (values.map toNat) := by
  rw [Draft.ofJson, list]
  induction values with
  | nil => rfl
  | cons a rest ih =>
    rw [List.map_cons, Draft.ofItems, sequence, unsigned_ofNat (h a), ih]
    rfl

theorem whole_ofNat {n : Nat} (h : n < 2 ^ 64) : ∀ m ∈ (Json.ofNat n).numbers, m.IsWhole := by
  intro m hm
  rw [List.mem_singleton.mp hm]
  exact ⟨by omega, by exact_mod_cast h⟩

theorem whole_ofNats {α : Type} (toNat : α → Nat) (h : ∀ a, toNat a < 2 ^ 64) (values : List α) :
    ∀ m ∈ (Json.array (values.map fun a => .ofNat (toNat a))).numbers, m.IsWhole := by
  induction values with
  | nil => exact fun _ hm => nomatch hm
  | cons a rest ih =>
    intro m hm
    exact (List.mem_append.mp hm).elim (whole_ofNat (h a) m) (ih m)

/-! ## Records -/

/-- A field of a record that has not been there before. -/
theorem readMembers_field {σ : Type} {fields : List (FieldReader σ)} (f : FieldReader σ)
    {name : String} {value : Draft} {rest : List (Draft × Draft)} {ending : Ending}
    {seen : List String} {s s' : σ} (hfind : (fields.find? fun g => g.name = name) = some f)
    (hnew : seen.contains name = false) (hread : f.read value s = .ok s') :
    readMembers fields ((.string name, value) :: rest) ending seen s =
      readMembers fields rest ending (name :: seen) s' := by
  have hkey : lift (Draft.string name).key = .ok name := rfl
  simp only [readMembers, bind, Except.bind, hkey, hfind, hnew, hread]
  rfl

/-- What every field of a record keeps is kept by the record, if the fields are read from drafts of
some kind. -/
structure Keeps {σ : Type} (fields : List (FieldReader σ)) (kind : Draft → Prop) (P : σ → Prop) :
    Prop where
  read : ∀ f ∈ fields, ∀ d s s', kind d → P s → f.read d s = .ok s' → P s'
  absent : ∀ f ∈ fields, ∀ fill, f.absent = some fill → ∀ s, P s → P (fill s)

namespace Keeps

variable {σ : Type} {fields : List (FieldReader σ)} {kind : Draft → Prop} {P : σ → Prop}

theorem readMembers (h : Keeps fields kind P) {members : List (Draft × Draft)} {ending : Ending}
    {seen seen' : List String} {s s' : σ} (hkind : ∀ p ∈ members, kind p.2) (hs : P s)
    (hread : Decode.readMembers fields members ending seen s = .ok (s', seen')) : P s' := by
  induction members generalizing seen s with
  | nil =>
    obtain ⟨_, -, heq⟩ := ok_of_map hread
    cases heq
    exact hs
  | cons member rest ih =>
    obtain ⟨key, value⟩ := member
    have hrest : ∀ p ∈ rest, kind p.2 := fun p hp => hkind p (List.mem_cons_of_mem _ hp)
    obtain ⟨k, -, hread⟩ := ok_of_bind hread
    split at hread
    · obtain ⟨_, -, hread⟩ := ok_of_bind hread
      exact ih hrest hs hread
    · next f hfind =>
      split at hread
      · cases hread
      · obtain ⟨after, hafter, hread⟩ := ok_of_bind hread
        have hmem := List.mem_of_find?_eq_some hfind
        exact ih hrest (h.read f hmem value s after (hkind _ List.mem_cons_self) hs hafter) hread

theorem fillAbsent {part : List (FieldReader σ)} (h : Keeps fields kind P)
    (hsub : ∀ f ∈ part, f ∈ fields) {seen : List String} {s s' : σ} (hs : P s)
    (hfill : Decode.fillAbsent seen part s = .ok s') : P s' := by
  induction part generalizing s with
  | nil =>
    cases hfill
    exact hs
  | cons f rest ih =>
    have hrest : ∀ g ∈ rest, g ∈ fields := fun g hg => hsub g (List.mem_cons_of_mem _ hg)
    rw [Decode.fillAbsent] at hfill
    split at hfill
    · exact ih hrest hs hfill
    · split at hfill
      · next fill habsent =>
        exact ih hrest (h.absent f (hsub f List.mem_cons_self) fill habsent s hs) hfill
      · cases hfill

theorem readItems {part : List (FieldReader σ)} (h : Keeps fields kind P)
    (hsub : ∀ f ∈ part, f ∈ fields) {source : Source} {expected : String} {count : Nat}
    {items : List Draft} {ending : Ending} {s s' : σ} (hkind : ∀ d ∈ items, kind d) (hs : P s)
    (hread : Decode.readItems source expected part count items ending s = .ok s') : P s' := by
  induction part generalizing count items s with
  | nil =>
    -- with no field left only the end of the array will do
    cases items with
    | nil =>
      cases ending with
      | closed =>
        cases hread
        exact hs
      | broken flaw => cases hread
      | afterComma flaw => cases source <;> cases hread
    | cons d rest => cases source <;> cases hread
  | cons f rest ih =>
    have hrest : ∀ g ∈ rest, g ∈ fields := fun g hg => hsub g (List.mem_cons_of_mem _ hg)
    have hf := hsub f List.mem_cons_self
    cases items with
    | nil =>
      obtain ⟨_, -, hread⟩ := ok_of_bind hread
      split at hread
      · next fill habsent => exact ih hrest hkind (h.absent f hf fill habsent s hs) hread
      · cases hread
    | cons d more =>
      obtain ⟨after, hafter, hread⟩ := ok_of_bind hread
      have hkept := h.read f hf d s after (hkind d List.mem_cons_self) hs hafter
      exact ih hrest (fun e he => hkind e (List.mem_cons_of_mem _ he)) hkept hread

/-- A record of which every field keeps something keeps it. -/
theorem record (h : Keeps fields kind P) {source : Source} {title : String} {start v : σ}
    {d : Draft}
    (hobject : ∀ members ending, d = .object members ending → ∀ p ∈ members, kind p.2)
    (harray : ∀ items ending, d = .array items ending → ∀ e ∈ items, kind e) (hstart : P start)
    (hread : Decode.record source title fields start d = .ok v) : P v := by
  cases d with
  | object members ending =>
    obtain ⟨⟨s, seen⟩, hmembers, hread⟩ := ok_of_bind hread
    have hkept := h.readMembers (hobject members ending rfl) hstart hmembers
    exact h.fillAbsent (fun _ hf => hf) hkept hread
  | array items ending =>
    exact h.readItems (fun _ hf => hf) (harray items ending rfl) hstart hread
  | _ => cases hread

end Keeps

theorem whole_object {members : List (String × Json)}
    (h : ∀ p ∈ members, ∀ n ∈ p.2.numbers, n.IsWhole) :
    ∀ n ∈ (Json.object members).numbers, n.IsWhole := by
  intro n hn
  obtain ⟨p, hp, hmem⟩ := Json.mem_numbersOf.mp hn
  exact h p hp n hmem

end Decode

end TargetControl
