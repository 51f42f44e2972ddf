import TargetControl.Proofs.Scanning

/-!
What a text can give.

The digits of an integer are gathered up to 64 bits, and what is longer is a double.  So every
integer in the draft of a text fits in 64 bits, whatever the text is, and a value that was read and
holds no doubles is one that the scanner gives back.
-/

namespace TargetControl
namespace Json

/-- An integer fits in 64 bits.  A double is no integer. -/
def Number.Fits : Number → Prop
  | .integer n => -(2 ^ 63 : Int) ≤ n ∧ n < 2 ^ 64
  | .real _ => True

theorem Number.Fits.whole {n : Number} (h : n.Fits) (hint : ∃ i, n = .integer i) : n.IsWhole := by
  obtain ⟨i, rfl⟩ := hint
  exact h

/-- Every number in a draft fits. -/
def Draft.Fits (d : Draft) : Prop := ∀ n ∈ d.numbers, n.Fits

theorem Draft.fits_of_nil {d : Draft} (h : d.numbers = []) : d.Fits := fun n hn => by
  rw [h] at hn
  cases hn

theorem Draft.fits_number {n : Number} (h : n.Fits) : (Draft.number n).Fits := fun m hm => by
  rw [List.mem_singleton.mp hm]
  exact h

theorem gather_lt (cs : List Char) {n : Nat} (h : n < significandLimit) :
    (gather n cs).1 < significandLimit := by
  induction cs generalizing n with
  | nil => exact h
  | cons c rest ih =>
    rw [gather]
    split
    · next hlt => exact ih hlt
    · exact h

theorem fits_realNumber (neg : Bool) (n : Nat) (e : Int) : (realNumber neg n e).Fits := by
  rw [realNumber]
  split
  · exact Draft.fits_of_nil rfl
  · exact Draft.fits_number trivial

theorem fits_numberOf (neg : Bool) (whole : List Char) (fraction : Option (List Char))
    (exponent : Option (Bool × List Char)) : (numberOf neg whole fraction exponent).Fits := by
  have hlimit : (gather 0 whole).1 < 2 ^ 64 := gather_lt whole (by decide)
  rw [numberOf]
  generalize gather 0 whole = gathered at hlimit
  obtain ⟨n, skipped⟩ := gathered
  simp only at hlimit ⊢
  split
  · split
    · exact fits_realNumber _ _ _
    · split
      · split
        · exact Draft.fits_number trivial
        · next hsmall =>
          have hle : n ≤ 2 ^ 63 := Nat.not_lt.mp fun hlt => hsmall (.inr hlt)
          exact Draft.fits_number ⟨by omega, by omega⟩
      · exact Draft.fits_number ⟨by omega, by omega⟩
  · split
    · exact fits_realNumber _ _ _
    · split
      · exact fits_realNumber _ _ _
      · split
        · exact Draft.fits_of_nil rfl
        · exact Draft.fits_number trivial

theorem fits_wantDigit (rest : List Char) : (wantDigit rest).1.Fits := Draft.fits_of_nil rfl

theorem fits_scanExponent (neg : Bool) (whole : List Char) (fraction : Option (List Char))
    (cs : List Char) : (scanExponent neg whole fraction cs).1.Fits := by
  rw [scanExponent.eq_def]
  simp only
  split
  · exact fits_wantDigit _
  · exact fits_numberOf _ _ _ _

theorem fits_scanAfterFraction (neg : Bool) (whole : List Char) (fraction : Option (List Char))
    (cs : List Char) : (scanAfterFraction neg whole fraction cs).1.Fits := by
  rw [scanAfterFraction.eq_def]
  split
  · exact fits_scanExponent _ _ _ _
  · exact fits_scanExponent _ _ _ _
  · exact fits_numberOf _ _ _ _

theorem fits_scanNumber (neg : Bool) (cs : List Char) : (scanNumber neg cs).1.Fits := by
  rw [scanNumber.eq_def]
  split
  · exact fits_wantDigit _
  · exact Draft.fits_of_nil rfl
  · rw [scanAfterWhole.eq_def]
    split
    · split
      · exact fits_wantDigit _
      · exact fits_scanAfterFraction _ _ _ _
    · exact fits_scanAfterFraction _ _ _ _

theorem fits_scanText (fuel : Nat) (cs done : List Char) (flaw : Option Flaw) :
    (scanText fuel cs done flaw).1.Fits := by
  induction fuel generalizing cs done flaw with
  | zero => exact Draft.fits_of_nil rfl
  | succ fuel ih =>
    rw [scanText]
    split
    · split <;> exact Draft.fits_of_nil rfl
    · exact ih _ _ _
    · exact ih _ _ _
    · exact Draft.fits_of_nil rfl

theorem fits_scanWord {word : List Char} {value : Draft} (h : value.Fits) (cs : List Char) :
    (scanWord word value cs).1.Fits := by
  rw [scanWord]
  split
  · exact h
  · exact Draft.fits_of_nil rfl

def Draft.FitsIn (items : List Draft) : Prop := ∀ n ∈ Draft.numbersIn items, n.Fits

def Draft.FitsOf (members : List (Draft × Draft)) : Prop := ∀ n ∈ Draft.numbersOf members, n.Fits

theorem Draft.FitsIn.cons {item : Draft} {items : List Draft} (hitem : item.Fits)
    (h : FitsIn items) : FitsIn (item :: items) := fun n hn =>
  (List.mem_append.mp hn).elim (hitem n) (h n)

theorem Draft.FitsIn.one {item : Draft} (hitem : item.Fits) : FitsIn [item] :=
  .cons hitem fun _ hn => nomatch hn

theorem Draft.FitsOf.cons {key item : Draft} {members : List (Draft × Draft)} (hitem : item.Fits)
    (h : FitsOf members) : FitsOf ((key, item) :: members) := fun n hn =>
  (List.mem_append.mp hn).elim (hitem n) (h n)

theorem Draft.FitsOf.one {key item : Draft} (hitem : item.Fits) : FitsOf [(key, item)] :=
  .cons hitem fun _ hn => nomatch hn

theorem Draft.fits_missing : Draft.missing.Fits := fits_of_nil rfl

theorem Draft.fits_of_mem_items {items : List Draft} {ending : Ending}
    (h : (Draft.array items ending).Fits) {d : Draft} (hd : d ∈ items) : d.Fits := by
  intro n hn
  refine h n ?_
  show n ∈ Draft.numbersIn items
  clear h
  induction items with
  | nil => cases hd
  | cons e rest ih =>
    rcases List.mem_cons.mp hd with rfl | hd
    · exact List.mem_append_left _ hn
    · exact List.mem_append_right _ (ih hd)

theorem Draft.fits_of_mem_members {members : List (Draft × Draft)} {ending : Ending}
    (h : (Draft.object members ending).Fits) {p : Draft × Draft} (hp : p ∈ members) : p.2.Fits := by
  intro n hn
  refine h n ?_
  show n ∈ Draft.numbersOf members
  clear h
  induction members with
  | nil => cases hp
  | cons q rest ih =>
    rcases List.mem_cons.mp hp with rfl | hp
    · exact List.mem_append_left _ hn
    · exact List.mem_append_right _ (ih hp)

/-- The drafts that are scanned with some fuel fit, whatever the text is. -/
structure FitsScanned (fuel : Nat) : Prop where
  value : ∀ cs, (scanValue fuel cs).1.Fits
  items : ∀ cs, Draft.FitsIn (scanItems fuel cs).1
  members : ∀ cs, Draft.FitsOf (scanMembers fuel cs).1

namespace FitsScanned

theorem zero : FitsScanned 0 where
  value _ := Draft.fits_of_nil rfl
  items _ := fun _ hn => nomatch hn
  members _ := fun _ hn => nomatch hn

variable {fuel : Nat}

theorem scanValue (h : FitsScanned fuel) (cs : List Char) :
    (Json.scanValue (fuel + 1) cs).1.Fits := by
  rw [Json.scanValue]
  split
  · exact Draft.fits_missing
  · exact fits_scanText _ _ _ _
  · next rest _ =>
    split
    · exact Draft.fits_of_nil rfl
    · exact Draft.fits_of_nil rfl
    · exact h.items rest
  · next rest _ =>
    split
    · exact Draft.fits_of_nil rfl
    · exact Draft.fits_of_nil rfl
    · exact h.members rest
  · exact fits_scanWord (Draft.fits_of_nil rfl) _
  · exact fits_scanWord (Draft.fits_of_nil rfl) _
  · exact fits_scanWord (Draft.fits_of_nil rfl) _
  · exact fits_scanNumber _ _
  · split
    · exact fits_scanNumber _ _
    · exact Draft.fits_of_nil rfl

theorem scanItems (h : FitsScanned fuel) (cs : List Char) :
    Draft.FitsIn (Json.scanItems (fuel + 1) cs).1 := by
  have hitem := h.value cs
  rw [Json.scanItems]
  generalize Json.scanValue fuel cs = scanned at hitem
  obtain ⟨item, after⟩ := scanned
  have hone : Draft.FitsIn [item] := .one hitem
  cases after with
  | none => exact hone
  | some rest =>
    simp only
    split
    · exact hone
    · exact hone
    · next rest _ =>
      split
      · exact hone
      · exact hone
      · exact .cons hitem (h.items rest)
    · exact hone

theorem scanMembers (h : FitsScanned fuel) (cs : List Char) :
    Draft.FitsOf (Json.scanMembers (fuel + 1) cs).1 := by
  rw [Json.scanMembers]
  obtain ⟨key, after⟩ := Json.scanValue fuel cs
  cases after with
  | none => exact .one Draft.fits_missing
  | some rest =>
    simp only
    split
    · exact .one Draft.fits_missing
    · next rest _ =>
      have hvalue := h.value rest
      generalize Json.scanValue fuel rest = scanned at hvalue
      obtain ⟨value, after⟩ := scanned
      have hone : Draft.FitsOf [(key, value)] := .one hvalue
      cases after with
      | none => exact hone
      | some rest =>
        simp only
        split
        · exact hone
        · exact hone
        · next rest _ =>
          split
          · exact hone
          · exact hone
          · exact .cons hvalue (h.members rest)
        · exact hone
    · exact .one (Draft.fits_of_nil rfl)

end FitsScanned

/-- Whatever a text is, the integers in its draft fit. -/
theorem fits_scanned (fuel : Nat) : FitsScanned fuel := by
  induction fuel with
  | zero => exact .zero
  | succ fuel ih => exact ⟨ih.scanValue, ih.scanItems, ih.scanMembers⟩

theorem fits_scan (cs : List Char) : (scan cs).root.Fits := by
  have hroot := (fits_scanned (2 * cs.length + 2)).value cs
  rw [scan]
  generalize scanValue (2 * cs.length + 2) cs = scanned at hroot
  obtain ⟨root, after⟩ := scanned
  cases after <;> exact hroot

end Json
end TargetControl
