import Mathlib
import TargetControl.Json.Writer
import TargetControl.Proofs.Trees

/-!
Scanning what was written.

The writer and the scanner meet character by character: an escape is one step of a text, the digits
of a number are gathered without loss up to 64 bits, and behind a value stands something that ends
it.  So the draft of a written value is the one made from the value, with nothing left over.

What is written is one line: no line feed stands in it.
-/

namespace TargetControl

/-! ## Digits -/

namespace Digits

theorem hexValue?_char {d : Nat} (h : d < 16) : hexValue? (char d) = some d := by
  have hall : ∀ d : Fin 16, hexValue? (char d) = some d.val := by decide
  exact hall ⟨d, h⟩

theorem char_ne_feed {d : Nat} (h : d < 16) : char d ≠ '\n' := by
  have hall : ∀ d : Fin 16, char d ≠ '\n' := by decide
  exact hall ⟨d, h⟩

theorem char_ne_zero {d : Nat} (h : d < 10) (hpos : 0 < d) : char d ≠ '0' := by
  intro heq
  have hvalue := value_char h
  rw [heq] at hvalue
  exact absurd hvalue (Nat.ne_of_lt hpos)

/-- A decimal form begins with no zero, but for that of zero. -/
theorem decimal_cases (n : Nat) :
    decimal n = ['0'] ∨ ∃ c rest, decimal n = c :: rest ∧ c ≠ '0' := by
  induction n using Nat.strongRecOn with
  | ind n ih =>
    unfold decimal digits
    by_cases hn : n < 10
    · rw [dif_pos (by omega)]
      by_cases hzero : n = 0
      · subst hzero
        exact .inl rfl
      · exact .inr ⟨_, [], rfl, char_ne_zero hn (by omega)⟩
    · rw [dif_neg (by omega)]
      right
      have hpos : decimal (n / 10) ≠ ['0'] := by
        intro heq
        have hvalue := ofDecimal_decimal (n / 10)
        rw [heq] at hvalue
        have hzero : 0 = n / 10 := hvalue
        omega
      obtain ⟨c, rest, heq, hc⟩ := (ih (n / 10) (by omega)).resolve_left hpos
      refine ⟨c, rest ++ [char (n % 10)], ?_, hc⟩
      show decimal (n / 10) ++ _ = _
      rw [heq]
      rfl

theorem decimal_ne_nil (n : Nat) : decimal n ≠ [] := by
  rcases decimal_cases n with h | ⟨c, rest, h, -⟩ <;> rw [h] <;> exact List.cons_ne_nil _ _

theorem ne_of_isDecimal {c d : Char} (hc : isDecimal c = true) (hd : isDecimal d = false) :
    c ≠ d := by
  intro heq
  rw [heq, hd] at hc
  cases hc

theorem le_foldl_value (cs : List Char) (n : Nat) :
    n ≤ cs.foldl (fun n c => 10 * n + value c) n := by
  induction cs generalizing n with
  | nil => exact Nat.le_refl n
  | cons c rest ih => exact Nat.le_trans (by omega) (ih (10 * n + value c))

end Digits

namespace Json

/-- Digits whose number stays below the limit are all gathered. -/
theorem gather_eq (cs : List Char) (n : Nat)
    (h : cs.foldl (fun n c => 10 * n + Digits.value c) n < significandLimit) :
    gather n cs = (cs.foldl (fun n c => 10 * n + Digits.value c) n, []) := by
  induction cs generalizing n with
  | nil => rfl
  | cons c rest ih =>
    have hfirst := Nat.lt_of_le_of_lt (Digits.le_foldl_value rest (10 * n + Digits.value c)) h
    rw [gather, if_pos hfirst]
    exact ih _ h

theorem gather_decimal {n : Nat} (h : n < significandLimit) :
    gather 0 (Digits.decimal n) = (n, []) := by
  have hvalue := Digits.ofDecimal_decimal n
  rw [Digits.ofDecimal] at hvalue
  rw [gather_eq _ _ (by rw [hvalue]; exact h), hvalue]

/-! ## Numbers -/

/-- A number that is written and scanned without loss: an integer that fits in 64 bits. -/
def Number.IsWhole : Number → Prop
  | .integer n => -(2 ^ 63 : Int) ≤ n ∧ n < 2 ^ 64
  | .real _ => False

/-- What ends a number: a digit, a point or an exponent does not follow. -/
def Ends : List Char → Prop
  | [] => True
  | c :: _ => Digits.isDecimal c = false ∧ c ≠ '.' ∧ c ≠ 'e' ∧ c ≠ 'E'

theorem numberOf_positive {n : Nat} (h : n < 2 ^ 64) :
    numberOf false (Digits.decimal n) none none = .number (.integer n) := by
  rw [numberOf, gather_decimal h]
  rfl

theorem numberOf_negative {n : Nat} (hpos : 0 < n) (h : n ≤ 2 ^ 63) :
    numberOf true (Digits.decimal n) none none = .number (.integer (-(n : Int))) := by
  have hlimit : n < significandLimit := Nat.lt_of_le_of_lt h (by decide)
  have hreal : ¬ (n = 0 ∨ Nat.pow 2 63 < n) := fun hor =>
    hor.elim (by omega) fun hlt => absurd h (Nat.not_le.mpr hlt)
  rw [numberOf, gather_decimal hlimit]
  simp only [ne_eq, not_true_eq_false, if_false, if_true, if_neg hreal]

theorem scanAfterWhole_of_ends {rest : List Char} (h : Ends rest) (neg : Bool)
    (whole : List Char) :
    scanAfterWhole neg whole rest = (numberOf neg whole none none, some rest) := by
  cases rest with
  | nil => rfl
  | cons c rest =>
    obtain ⟨-, hpoint, he, hE⟩ := h
    rw [scanAfterWhole.eq_def]
    split
    · next heq => exact absurd (List.cons.inj heq).1 hpoint
    · rw [scanAfterFraction.eq_def]
      split
      · next heq => exact absurd (List.cons.inj heq).1 he
      · next heq => exact absurd (List.cons.inj heq).1 hE
      · rfl

theorem span_decimal {rest : List Char} (h : Ends rest) (n : Nat) :
    (Digits.decimal n ++ rest).takeWhile Digits.isDecimal = Digits.decimal n ∧
      (Digits.decimal n ++ rest).dropWhile Digits.isDecimal = rest := by
  have hall : ∀ c ∈ Digits.decimal n, Digits.isDecimal c = true := fun c hc =>
    Digits.isDecimal_of_mem_decimal hc
  have hrest : rest.takeWhile Digits.isDecimal = [] ∧ rest.dropWhile Digits.isDecimal = rest := by
    cases rest with
    | nil => exact ⟨rfl, rfl⟩
    | cons c rest => simp [h.1]
  constructor
  · rw [List.takeWhile_append_of_pos hall, hrest.1, List.append_nil]
  · rw [List.dropWhile_append_of_pos hall, hrest.2]

theorem scanNumber_decimal {rest : List Char} (h : Ends rest) (neg : Bool) (n : Nat) :
    scanNumber neg (Digits.decimal n ++ rest) =
      (numberOf neg (Digits.decimal n) none none, some rest) := by
  obtain ⟨htake, hdrop⟩ := span_decimal h n
  rw [scanNumber, htake, hdrop]
  rcases Digits.decimal_cases n with hzero | ⟨c, more, heq, hc⟩
  · rw [hzero]
    exact scanAfterWhole_of_ends h neg _
  · rw [heq]
    split
    · next hnil => cases hnil
    · next hlead => exact absurd (List.cons.inj hlead).1 hc
    · exact scanAfterWhole_of_ends h neg _

/-! ## Texts -/

/-- The four digits of a control character give its number, which is no surrogate. -/
theorem escapeStep_control {c : Char} (h : c.toNat < 32) (rest : List Char) :
    escapeStep ('u' :: '0' :: '0' :: Digits.char (c.toNat / 16) :: Digits.char (c.toNat % 16) ::
      rest) = .char c rest := by
  have hquad : hexQuad ('0' :: '0' :: Digits.char (c.toNat / 16) :: Digits.char (c.toNat % 16) ::
      rest) = .ok (c.toNat, rest) := by
    have hzero : Digits.hexValue? '0' = some 0 := rfl
    rw [hexQuad, hzero, Digits.hexValue?_char (by omega), Digits.hexValue?_char (by omega)]
    show Except.ok (_, rest) = _
    congr 2
    omega
  rw [escapeStep, hquad]
  simp only
  rw [if_neg (by omega), if_neg (by omega), Char.ofNat_toNat]

/-- The scanner takes an escaped character in one step. -/
theorem textStep_escape (c : Char) (rest : List Char) :
    textStep (escape c ++ rest) = .char c rest := by
  rw [escape]
  by_cases hquote : c = '"'
  · rw [if_pos hquote, hquote]
    rfl
  rw [if_neg hquote]
  by_cases hslash : c = '\\'
  · rw [if_pos hslash, hslash]
    rfl
  rw [if_neg hslash]
  by_cases hfeed : c = '\n'
  · rw [if_pos hfeed, hfeed]
    rfl
  rw [if_neg hfeed]
  by_cases hreturn : c = '\r'
  · rw [if_pos hreturn, hreturn]
    rfl
  rw [if_neg hreturn]
  by_cases htab : c = '\t'
  · rw [if_pos htab, htab]
    rfl
  rw [if_neg htab]
  have hc := Char.ofNat_toNat c
  by_cases hback : c.toNat = 8
  · rw [if_pos hback, ← hc, hback]
    rfl
  rw [if_neg hback]
  by_cases hform : c.toNat = 12
  · rw [if_pos hform, ← hc, hform]
    rfl
  rw [if_neg hform]
  by_cases hlow : c.toNat < 32
  · rw [if_pos hlow]
    exact escapeStep_control hlow rest
  · rw [if_neg hlow]
    show textStep (c :: rest) = _
    rw [textStep.eq_def]
    split
    · next heq => cases heq
    · next heq => exact absurd (List.cons.inj heq).1 hquote
    · next heq => exact absurd (List.cons.inj heq).1 hslash
    · next heq =>
      obtain ⟨rfl, rfl⟩ := List.cons.inj heq
      rw [if_neg hlow]

theorem scanText_escape (cs done rest : List Char) (fuel : Nat) (h : cs.length < fuel) :
    scanText fuel (cs.flatMap escape ++ '"' :: rest) done none =
      (.string (String.ofList (done.reverse ++ cs)), some rest) := by
  induction cs generalizing done fuel with
  | nil =>
    obtain ⟨fuel, rfl⟩ : ∃ f, fuel = f + 1 := ⟨fuel - 1, by simp at h; omega⟩
    rw [scanText, List.append_nil]
    rfl
  | cons c cs ih =>
    rw [List.length_cons] at h
    obtain ⟨fuel, rfl⟩ : ∃ f, fuel = f + 1 := ⟨fuel - 1, by omega⟩
    rw [scanText, List.flatMap_cons, List.append_assoc, textStep_escape]
    show scanText fuel _ (c :: done) none = _
    rw [ih (c :: done) fuel (by omega), List.reverse_cons, List.append_assoc]
    rfl

theorem length_le_escape (cs : List Char) : cs.length ≤ (cs.flatMap escape).length := by
  induction cs with
  | nil => exact Nat.le_refl 0
  | cons c rest ih =>
    have hpos : 0 < (escape c).length := by
      rw [escape]
      repeat' split
      all_goals exact Nat.succ_pos _
    rw [List.flatMap_cons, List.length_append, List.length_cons]
    omega

/-! ## Values -/

theorem skipBlanks_of_head {c : Char} (h : isBlank c = false) (cs : List Char) :
    skipBlanks (c :: cs) = c :: cs := by
  rw [skipBlanks, List.dropWhile_cons_of_neg]
  rw [h]
  exact Bool.false_ne_true

/-- What a written value begins with. -/
structure Front (c : Char) : Prop where
  nonblank : isBlank c = false
  no_bracket : c ≠ ']'
  no_brace : c ≠ '}'

theorem Front.of_decimal {c : Char} (hc : Digits.isDecimal c = true) : Front c := by
  have hne : ∀ {d : Char}, Digits.isDecimal d = false → c ≠ d := Digits.ne_of_isDecimal hc
  refine ⟨?_, hne rfl, hne rfl⟩
  simp only [isBlank, Bool.or_eq_false_iff, decide_eq_false_iff_not]
  exact ⟨⟨⟨hne rfl, hne rfl⟩, hne rfl⟩, hne rfl⟩

/-- A text begins like a written value. -/
def Starts (cs : List Char) : Prop := ∃ c more, cs = c :: more ∧ Front c

theorem Starts.append {cs : List Char} (h : Starts cs) (rest : List Char) : Starts (cs ++ rest) := by
  obtain ⟨c, more, rfl, hc⟩ := h
  exact ⟨c, more ++ rest, rfl, hc⟩

theorem starts_text (s : String) : Starts (writeText s) :=
  ⟨_, _, rfl, rfl, by decide, by decide⟩

theorem scanValue_text (fuel : Nat) (s : String) (rest : List Char) :
    scanValue (fuel + 1) (writeText s ++ rest) = (.string s, some rest) := by
  have hfuel : s.toList.length < (s.toList.flatMap escape ++ '"' :: rest).length + 1 := by
    have hlength := length_le_escape s.toList
    rw [List.length_append]
    omega
  have htext : writeText s ++ rest = '"' :: (s.toList.flatMap escape ++ '"' :: rest) := by
    rw [writeText, List.cons_append, List.cons_append, List.append_assoc]
    rfl
  rw [htext, scanValue, skipBlanks_of_head rfl]
  simp only
  rw [scanText_escape s.toList [] rest _ hfuel, List.reverse_nil, List.nil_append,
    String.ofList_toList]

theorem scanValue_decimal (fuel n : Nat) (rest : List Char) :
    scanValue (fuel + 1) (Digits.decimal n ++ rest) =
      scanNumber false (Digits.decimal n ++ rest) := by
  obtain ⟨c, cs, heq⟩ := List.exists_cons_of_ne_nil (Digits.decimal_ne_nil n)
  have hc : Digits.isDecimal c = true :=
    Digits.isDecimal_of_mem_decimal (heq ▸ List.mem_cons_self)
  have hne : ∀ {d : Char}, Digits.isDecimal d = false → c ≠ d := Digits.ne_of_isDecimal hc
  rw [heq, List.cons_append, scanValue, skipBlanks_of_head (Front.of_decimal hc).nonblank]
  split
  · next hnil => cases hnil
  · next hhead => exact absurd (List.cons.inj hhead).1 (hne rfl)
  · next hhead => exact absurd (List.cons.inj hhead).1 (hne rfl)
  · next hhead => exact absurd (List.cons.inj hhead).1 (hne rfl)
  · next hhead => exact absurd (List.cons.inj hhead).1 (hne rfl)
  · next hhead => exact absurd (List.cons.inj hhead).1 (hne rfl)
  · next hhead => exact absurd (List.cons.inj hhead).1 (hne rfl)
  · next hhead => exact absurd (List.cons.inj hhead).1 (hne rfl)
  · next hhead =>
    obtain ⟨rfl, rfl⟩ := List.cons.inj hhead
    rw [if_pos hc]

theorem scanValue_integer {n : Int} (hn : (Number.integer n).IsWhole) (fuel : Nat)
    {rest : List Char} (h : Ends rest) :
    scanValue (fuel + 1) (Digits.signed n ++ rest) = (.number (.integer n), some rest) := by
  obtain ⟨hlow, hhigh⟩ := hn
  rw [Digits.signed]
  split
  · next hneg =>
    have hminus : scanValue (fuel + 1) ('-' :: (Digits.decimal n.natAbs ++ rest)) =
        scanNumber true (Digits.decimal n.natAbs ++ rest) := by
      rw [scanValue, skipBlanks_of_head rfl]
      rfl
    rw [List.cons_append, hminus, scanNumber_decimal h, numberOf_negative (by omega) (by omega)]
    congr 3
    omega
  · next hpos =>
    rw [scanValue_decimal, scanNumber_decimal h, numberOf_positive (by omega)]
    congr 3
    omega

theorem starts_write (j : Json) (hj : ∀ n ∈ j.numbers, n.IsWhole) : Starts j.write := by
  cases j with
  | null => exact ⟨_, _, rfl, rfl, by decide, by decide⟩
  | bool b => cases b <;> exact ⟨_, _, rfl, rfl, by decide, by decide⟩
  | string s => exact starts_text s
  | array items => cases items <;> exact ⟨_, _, rfl, rfl, by decide, by decide⟩
  | object members => cases members <;> exact ⟨_, _, rfl, rfl, by decide, by decide⟩
  | number n =>
    cases n with
    | real x => exact absurd (hj _ (List.mem_singleton.mpr rfl)) id
    | integer n =>
      show Starts (Digits.signed n)
      rw [Digits.signed]
      split
      · exact ⟨_, _, rfl, rfl, by decide, by decide⟩
      · obtain ⟨c, cs, heq⟩ := List.exists_cons_of_ne_nil (Digits.decimal_ne_nil n.natAbs)
        have hc : Digits.isDecimal c = true :=
          Digits.isDecimal_of_mem_decimal (heq ▸ List.mem_cons_self)
        exact ⟨c, cs, heq, .of_decimal hc⟩

/-- The scanner gives a value back, whatever stands behind it that ends a number. -/
def Recovered (j : Json) : Prop :=
  ∀ (fuel : Nat) (rest : List Char), j.write.length ≤ fuel → Ends rest →
    scanValue fuel (j.write ++ rest) = (.ofJson j, some rest)

theorem ends_writeItems (items : List Json) (rest : List Char) :
    Ends (writeItems items ++ rest) := by
  cases items <;> exact ⟨rfl, by decide, by decide, by decide⟩

theorem ends_writeMembers (members : List (String × Json)) (rest : List Char) :
    Ends (writeMembers members ++ rest) := by
  cases members <;> exact ⟨rfl, by decide, by decide, by decide⟩

theorem scanWord_append (word : List Char) (value : Draft) (rest : List Char) :
    scanWord word value (word ++ rest) = (value, some rest) := by
  have hword : expectWord word (word ++ rest) = .ok rest := by
    induction word with
    | nil => cases rest <;> rfl
    | cons w word ih => rw [List.cons_append, expectWord, if_pos rfl, ih]
  rw [scanWord, hword]

/-- A value takes up some fuel, so there is some to begin with. -/
theorem Recovered.of_succ {j : Json} (hpos : 0 < j.write.length)
    (h : ∀ (fuel : Nat) (rest : List Char), j.write.length ≤ fuel + 1 → Ends rest →
      scanValue (fuel + 1) (j.write ++ rest) = (.ofJson j, some rest)) : Recovered j := by
  intro fuel rest hfuel hends
  obtain ⟨fuel, rfl⟩ : ∃ f, fuel = f + 1 := ⟨fuel - 1, by omega⟩
  exact h fuel rest hfuel hends

/-- An array that is not empty is its items behind a bracket. -/
theorem scanValue_array (fuel : Nat) {cs : List Char} (h : Starts cs) :
    scanValue (fuel + 1) ('[' :: cs) =
      (.array (scanItems fuel cs).1 (scanItems fuel cs).2.1, (scanItems fuel cs).2.2) := by
  obtain ⟨c, cs, rfl, hc⟩ := h
  rw [scanValue, skipBlanks_of_head rfl]
  simp only
  rw [skipBlanks_of_head hc.nonblank]
  split
  · next heq => cases heq
  · next heq => exact absurd (List.cons.inj heq).1 hc.no_bracket
  · rfl

theorem scanValue_object (fuel : Nat) {cs : List Char} (h : Starts cs) :
    scanValue (fuel + 1) ('\x7b' :: cs) =
      (.object (scanMembers fuel cs).1 (scanMembers fuel cs).2.1, (scanMembers fuel cs).2.2) := by
  obtain ⟨c, cs, rfl, hc⟩ := h
  rw [scanValue, skipBlanks_of_head rfl]
  simp only
  rw [skipBlanks_of_head hc.nonblank]
  split
  · next heq => cases heq
  · next heq => exact absurd (List.cons.inj heq).1 hc.no_brace
  · rfl

/-- Behind an item and a comma the scanner goes on with the items that follow. -/
theorem scanItems_comma {fuel : Nat} {cs after : List Char} {item : Draft}
    (hitem : scanValue fuel cs = (item, some (',' :: after))) (h : Starts after) :
    scanItems (fuel + 1) cs =
      (item :: (scanItems fuel after).1, (scanItems fuel after).2.1,
        (scanItems fuel after).2.2) := by
  obtain ⟨c, more, rfl, hc⟩ := h
  rw [scanItems, hitem]
  simp only
  rw [skipBlanks_of_head rfl]
  simp only
  rw [skipBlanks_of_head hc.nonblank]
  split
  · next heq => cases heq
  · next heq => exact absurd (List.cons.inj heq).1 hc.no_bracket
  · rfl

theorem scanItems_end {fuel : Nat} {cs : List Char} {item : Draft} {rest : List Char}
    (hitem : scanValue fuel cs = (item, some (']' :: rest))) :
    scanItems (fuel + 1) cs = ([item], .closed, some rest) := by
  rw [scanItems, hitem]
  simp only
  rw [skipBlanks_of_head rfl]
  rfl

theorem scanMembers_comma {fuel : Nat} {cs middle after : List Char} {key value : Draft}
    (hkey : scanValue fuel cs = (key, some (':' :: middle)))
    (hvalue : scanValue fuel middle = (value, some (',' :: after))) (h : Starts after) :
    scanMembers (fuel + 1) cs =
      ((key, value) :: (scanMembers fuel after).1, (scanMembers fuel after).2.1,
        (scanMembers fuel after).2.2) := by
  obtain ⟨c, more, rfl, hc⟩ := h
  rw [scanMembers, hkey]
  simp only
  rw [skipBlanks_of_head rfl]
  simp only [hvalue]
  rw [skipBlanks_of_head rfl]
  simp only
  rw [skipBlanks_of_head hc.nonblank]
  split
  · next heq => cases heq
  · next heq => exact absurd (List.cons.inj heq).1 hc.no_brace
  · rfl

theorem scanMembers_end {fuel : Nat} {cs middle rest : List Char} {key value : Draft}
    (hkey : scanValue fuel cs = (key, some (':' :: middle)))
    (hvalue : scanValue fuel middle = (value, some ('\x7d' :: rest))) :
    scanMembers (fuel + 1) cs = ([(key, value)], .closed, some rest) := by
  rw [scanMembers, hkey]
  simp only
  rw [skipBlanks_of_head rfl]
  simp only [hvalue]
  rw [skipBlanks_of_head rfl]
  rfl

/-- Items of which the first is recovered are scanned to the end if the others are too. -/
def RecoveredItems (items : List Json) : Prop :=
  ∀ (x : Json), Recovered x → ∀ (fuel : Nat) (rest : List Char),
    x.write.length + (writeItems items).length ≤ fuel →
    scanItems fuel (x.write ++ (writeItems items ++ rest)) =
      (Draft.ofItems (x :: items), .closed, some rest)

def RecoveredMembers (members : List (String × Json)) : Prop :=
  ∀ (k : String) (x : Json), Recovered x → ∀ (fuel : Nat) (rest : List Char),
    (writeText k).length + x.write.length + (writeMembers members).length ≤ fuel →
    scanMembers fuel (writeText k ++ ':' :: (x.write ++ (writeMembers members ++ rest))) =
      (Draft.ofMembers ((k, x) :: members), .closed, some rest)

theorem RecoveredItems.nil : RecoveredItems [] := by
  intro x hx fuel rest hfuel
  have hlength : (writeItems []).length = 1 := rfl
  obtain ⟨fuel, rfl⟩ : ∃ f, fuel = f + 1 := ⟨fuel - 1, by omega⟩
  exact scanItems_end (hx fuel _ (by omega) (ends_writeItems [] rest))

theorem RecoveredItems.cons {y : Json} {items : List Json} (hy : Recovered y)
    (hstarts : Starts y.write) (h : RecoveredItems items) : RecoveredItems (y :: items) := by
  intro x hx fuel rest hfuel
  have hlength : (writeItems (y :: items)).length =
      1 + (y.write.length + (writeItems items).length) := by
    rw [writeItems, List.cons_append, List.length_cons, List.length_append]
    omega
  have htext : writeItems (y :: items) ++ rest = ',' :: (y.write ++ (writeItems items ++ rest)) := by
    rw [writeItems, List.cons_append, List.cons_append, List.append_assoc]
  obtain ⟨fuel, rfl⟩ : ∃ f, fuel = f + 1 := ⟨fuel - 1, by omega⟩
  have hfirst := hx fuel _ (by omega) (ends_writeItems (y :: items) rest)
  rw [htext] at hfirst
  rw [htext, scanItems_comma hfirst (hstarts.append _), h y hy fuel rest (by omega)]
  rfl

theorem scanValue_key (fuel : Nat) (hfuel : 0 < fuel) (k : String) (rest : List Char) :
    scanValue fuel (writeText k ++ rest) = (.string k, some rest) := by
  obtain ⟨fuel, rfl⟩ : ∃ f, fuel = f + 1 := ⟨fuel - 1, by omega⟩
  exact scanValue_text fuel k rest

theorem writeText_length (s : String) : 2 ≤ (writeText s).length := by
  rw [writeText, List.length_append, List.length_cons]
  exact Nat.le_add_left 2 _

theorem RecoveredMembers.nil : RecoveredMembers [] := by
  intro k x hx fuel rest hfuel
  have hlength : (writeMembers []).length = 1 := rfl
  have hkey := writeText_length k
  obtain ⟨fuel, rfl⟩ : ∃ f, fuel = f + 1 := ⟨fuel - 1, by omega⟩
  exact scanMembers_end (scanValue_key fuel (by omega) k _)
    (hx fuel _ (by omega) (ends_writeMembers [] rest))

theorem RecoveredMembers.cons {l : String} {y : Json} {members : List (String × Json)}
    (hy : Recovered y) (h : RecoveredMembers members) : RecoveredMembers ((l, y) :: members) := by
  intro k x hx fuel rest hfuel
  have hlength : (writeMembers ((l, y) :: members)).length =
      2 + ((writeText l).length + y.write.length + (writeMembers members).length) := by
    rw [writeMembers]
    simp only [List.length_append, List.length_cons]
    omega
  have htext : writeMembers ((l, y) :: members) ++ rest =
      ',' :: (writeText l ++ ':' :: (y.write ++ (writeMembers members ++ rest))) := by
    rw [writeMembers]
    simp only [List.cons_append, List.append_assoc]
  have hkey := writeText_length k
  obtain ⟨fuel, rfl⟩ : ∃ f, fuel = f + 1 := ⟨fuel - 1, by omega⟩
  have hfirst := hx fuel _ (by omega) (ends_writeMembers ((l, y) :: members) rest)
  rw [htext] at hfirst
  rw [htext, scanMembers_comma (scanValue_key fuel (by omega) k _) hfirst
    ((starts_text l).append _), h l y hy fuel rest (by omega)]
  rfl

mutual

theorem recovered : ∀ j : Json, (∀ n ∈ j.numbers, n.IsWhole) → Recovered j
  | .null, _ => .of_succ (by decide) fun fuel rest _ _ => by
    show scanValue _ ('n' :: (['u', 'l', 'l'] ++ rest)) = _
    rw [scanValue, skipBlanks_of_head rfl]
    exact scanWord_append _ _ rest
  | .bool true, _ => .of_succ (by decide) fun fuel rest _ _ => by
    show scanValue _ ('t' :: (['r', 'u', 'e'] ++ rest)) = _
    rw [scanValue, skipBlanks_of_head rfl]
    exact scanWord_append _ _ rest
  | .bool false, _ => .of_succ (by decide) fun fuel rest _ _ => by
    show scanValue _ ('f' :: (['a', 'l', 's', 'e'] ++ rest)) = _
    rw [scanValue, skipBlanks_of_head rfl]
    exact scanWord_append _ _ rest
  | .number (.real x), h => absurd (h _ (List.mem_singleton.mpr rfl)) id
  | .number (.integer n), h => by
    have hn := h _ (List.mem_singleton.mpr rfl)
    obtain ⟨c, cs, hwrite, -⟩ := starts_write _ h
    refine .of_succ (by rw [hwrite]; exact Nat.succ_pos _) fun fuel rest _ hends => ?_
    exact scanValue_integer hn fuel hends
  | .string s, _ => .of_succ (Nat.succ_pos _) fun fuel rest _ _ => scanValue_text fuel s rest
  | .array [], _ => .of_succ (by decide) fun fuel rest _ _ => by
    show scanValue _ ('[' :: ']' :: rest) = _
    rw [scanValue, skipBlanks_of_head rfl]
    simp only
    rw [skipBlanks_of_head rfl]
    rfl
  | .array (x :: items), h => .of_succ (Nat.succ_pos _) fun fuel rest hfuel _ => by
    have hx : ∀ n ∈ x.numbers, n.IsWhole := fun n hn => h n (List.mem_append_left _ hn)
    have hitems : ∀ n ∈ numbersIn items, n.IsWhole := fun n hn => h n (List.mem_append_right _ hn)
    have htext : (Json.array (x :: items)).write ++ rest =
        '[' :: (x.write ++ (writeItems items ++ rest)) := by
      rw [write]
      simp only [List.cons_append, List.append_assoc]
    have hlength : (Json.array (x :: items)).write.length =
        1 + (x.write.length + (writeItems items).length) := by
      rw [write]
      simp only [List.length_append, List.length_cons]
      omega
    rw [htext, scanValue_array fuel ((starts_write x hx).append _),
      recovered_items items hitems x (recovered x hx) fuel rest (by omega)]
    rfl
  | .object [], _ => .of_succ (by decide) fun fuel rest _ _ => by
    show scanValue _ ('\x7b' :: '\x7d' :: rest) = _
    rw [scanValue, skipBlanks_of_head rfl]
    simp only
    rw [skipBlanks_of_head rfl]
    rfl
  | .object ((k, x) :: members), h => .of_succ (Nat.succ_pos _) fun fuel rest hfuel _ => by
    have hx : ∀ n ∈ x.numbers, n.IsWhole := fun n hn => h n (List.mem_append_left _ hn)
    have hmembers : ∀ n ∈ numbersOf members, n.IsWhole := fun n hn =>
      h n (List.mem_append_right _ hn)
    have htext : (Json.object ((k, x) :: members)).write ++ rest =
        '\x7b' :: (writeText k ++ ':' :: (x.write ++ (writeMembers members ++ rest))) := by
      rw [write]
      simp only [List.cons_append, List.append_assoc]
    have hlength : (Json.object ((k, x) :: members)).write.length =
        2 + ((writeText k).length + x.write.length + (writeMembers members).length) := by
      rw [write]
      simp only [List.length_append, List.length_cons]
      omega
    rw [htext, scanValue_object fuel ((starts_text k).append _),
      recovered_members members hmembers k x (recovered x hx) fuel rest (by omega)]
    rfl

theorem recovered_items : ∀ items : List Json, (∀ n ∈ numbersIn items, n.IsWhole) →
    RecoveredItems items
  | [], _ => .nil
  | x :: rest, h => by
    have hx : ∀ n ∈ x.numbers, n.IsWhole := fun n hn => h n (List.mem_append_left _ hn)
    exact .cons (recovered x hx) (starts_write x hx)
      (recovered_items rest fun n hn => h n (List.mem_append_right _ hn))

theorem recovered_members : ∀ members : List (String × Json),
    (∀ n ∈ numbersOf members, n.IsWhole) → RecoveredMembers members
  | [], _ => .nil
  | (_, x) :: rest, h => .cons (recovered x fun n hn => h n (List.mem_append_left _ hn))
    (recovered_members rest fun n hn => h n (List.mem_append_right _ hn))

end

/-- The draft of a written value is the one made from the value, and nothing is left over. -/
theorem scan_write {j : Json} (h : ∀ n ∈ j.numbers, n.IsWhole) :
    scan j.write = ⟨.ofJson j, true⟩ := by
  have hscan := recovered j h (2 * j.write.length + 2) [] (by omega) trivial
  rw [List.append_nil] at hscan
  rw [scan, hscan]
  rfl

/-- A value is read back from its text. -/
theorem ofText_text {j : Json} (h : ∀ n ∈ j.numbers, n.IsWhole) (hdepth : j.depth ≤ depthLimit) :
    ofText j.text = .ok j := by
  rw [ofText, text, String.toList_ofList, scan_write h]
  show (Draft.ofJson j).read depthLimit >>= _ = _
  rw [Draft.read_ofJson j _ hdepth]
  rfl

/-! ## One line -/

theorem feed_not_mem_escape (c : Char) : '\n' ∉ escape c := by
  rw [escape]
  split
  · decide
  split
  · decide
  split
  · decide
  next hfeed =>
  split
  · decide
  split
  · decide
  split
  · decide
  split
  · decide
  split
  · next hlow =>
    have hhigh := Digits.char_ne_feed (show c.toNat / 16 < 16 by omega)
    have hdigit := Digits.char_ne_feed (show c.toNat % 16 < 16 by omega)
    simp only [List.mem_cons, List.not_mem_nil, or_false, not_or]
    exact ⟨by decide, by decide, by decide, by decide, hhigh.symm, hdigit.symm⟩
  · exact fun h => hfeed (List.mem_singleton.mp h).symm

theorem feed_not_mem_writeText (s : String) : '\n' ∉ writeText s := by
  rw [writeText]
  intro h
  rcases List.mem_append.mp h with h | h
  · rcases List.mem_cons.mp h with h | h
    · exact absurd h (by decide)
    · obtain ⟨c, -, hc⟩ := List.mem_flatMap.mp h
      exact feed_not_mem_escape c hc
  · exact absurd (List.mem_singleton.mp h) (by decide)

theorem feed_not_mem_decimal (n : Nat) : '\n' ∉ Digits.decimal n := fun h =>
  absurd (Digits.isDecimal_of_mem_decimal h) (by decide)

mutual

/-- The text of a value is one line, whatever characters stand in its texts. -/
theorem feed_not_mem_write : ∀ j : Json, (∀ n ∈ j.numbers, n.IsWhole) → '\n' ∉ j.write
  | .null, _ | .bool true, _ | .bool false, _ | .array [], _ | .object [], _ => by decide
  | .number (.real x), h => absurd (h _ (List.mem_singleton.mpr rfl)) id
  | .number (.integer n), _ => by
    show '\n' ∉ Digits.signed n
    rw [Digits.signed]
    split
    · simp only [List.mem_cons, not_or]
      exact ⟨by decide, feed_not_mem_decimal _⟩
    · exact feed_not_mem_decimal _
  | .string s, _ => feed_not_mem_writeText s
  | .array (x :: items), h => by
    have hx := feed_not_mem_write x fun n hn => h n (List.mem_append_left _ hn)
    have hitems := feed_not_mem_items items fun n hn => h n (List.mem_append_right _ hn)
    rw [write]
    simp only [List.cons_append, List.mem_cons, List.mem_append, not_or]
    exact ⟨by decide, hx, hitems⟩
  | .object ((k, x) :: members), h => by
    have hx := feed_not_mem_write x fun n hn => h n (List.mem_append_left _ hn)
    have hmembers := feed_not_mem_members members fun n hn => h n (List.mem_append_right _ hn)
    rw [write]
    simp only [List.cons_append, List.mem_cons, List.mem_append, not_or]
    exact ⟨by decide, ⟨feed_not_mem_writeText k, by decide, hx⟩, hmembers⟩

theorem feed_not_mem_items : ∀ items : List Json, (∀ n ∈ numbersIn items, n.IsWhole) →
    '\n' ∉ writeItems items
  | [], _ => by decide
  | x :: items, h => by
    have hx := feed_not_mem_write x fun n hn => h n (List.mem_append_left _ hn)
    have hitems := feed_not_mem_items items fun n hn => h n (List.mem_append_right _ hn)
    rw [writeItems]
    simp only [List.cons_append, List.mem_cons, List.mem_append, not_or]
    exact ⟨by decide, hx, hitems⟩

theorem feed_not_mem_members : ∀ members : List (String × Json),
    (∀ n ∈ numbersOf members, n.IsWhole) → '\n' ∉ writeMembers members
  | [], _ => by decide
  | (k, x) :: members, h => by
    have hx := feed_not_mem_write x fun n hn => h n (List.mem_append_left _ hn)
    have hmembers := feed_not_mem_members members fun n hn => h n (List.mem_append_right _ hn)
    rw [writeMembers]
    simp only [List.cons_append, List.mem_cons, List.mem_append, not_or]
    exact ⟨by decide, ⟨feed_not_mem_writeText k, by decide, hx⟩, hmembers⟩

end

end Json
end TargetControl
