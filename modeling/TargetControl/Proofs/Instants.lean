import TargetControl.Proofs.Scanning
import TargetControl.Time.Timestamp

/-!
Points in time that a text gives, and the texts that are written for them.

Whatever is read, in whatever offset and with whatever blanks, is a day of the calendar, a second of
that day, and nanoseconds that run past a thousand million only in the last second of a minute.
Such a point is what reading its own text gives.
-/

namespace TargetControl

/-! ## Padded digits -/

namespace Digits

theorem length_decimal {n width : Nat} (hpos : 0 < width) (h : n < 10 ^ width) :
    (decimal n).length ≤ width := by
  induction width generalizing n with
  | zero => exact absurd hpos (Nat.lt_irrefl 0)
  | succ width ih =>
    unfold decimal digits
    by_cases hn : n < 10
    · rw [dif_pos (by omega)]
      exact Nat.succ_le_succ (Nat.zero_le _)
    · rw [dif_neg (by omega), List.length_append]
      have hwidth : 0 < width := by
        rcases Nat.eq_zero_or_pos width with hzero | hzero
        · subst hzero
          exact absurd h (by omega)
        · exact hzero
      have hdiv : n / 10 < 10 ^ width := by
        rw [Nat.pow_succ] at h
        exact Nat.div_lt_of_lt_mul (by omega)
      exact Nat.succ_le_succ (ih hwidth hdiv)

theorem length_padded {n width : Nat} (hpos : 0 < width) (h : n < 10 ^ width) :
    (padded width n).length = width := by
  have hlength := length_decimal hpos h
  rw [padded, pad, List.length_append, List.length_replicate]
  omega

theorem isDecimal_of_mem_padded {n width : Nat} {c : Char} (h : c ∈ padded width n) :
    isDecimal c = true := by
  rcases List.mem_append.mp h with h | h
  · rw [List.eq_of_mem_replicate h]
    rfl
  · exact isDecimal_of_mem_decimal h

theorem ofDecimal_padded (width n : Nat) : ofDecimal (padded width n) = n := by
  have hzeros : ∀ k, (List.replicate k '0').foldl (fun n c => 10 * n + value c) 0 = 0 := by
    intro k
    induction k with
    | zero => rfl
    | succ k ih => exact ih
  have hvalue := ofDecimal_decimal n
  rw [ofDecimal] at hvalue
  rw [padded, pad, ofDecimal, List.foldl_append, hzeros, hvalue]

theorem padded_ne_nil (width n : Nat) : padded width n ≠ [] := fun h =>
  decimal_ne_nil n (List.append_eq_nil_iff.mp h).2

theorem ofDecimal_lt {cs : List Char} (h : ∀ c ∈ cs, isDecimal c = true) :
    ofDecimal cs < 10 ^ cs.length := by
  have hfold : ∀ (cs : List Char) (n : Nat), (∀ c ∈ cs, isDecimal c = true) →
      cs.foldl (fun n c => 10 * n + value c) n < (n + 1) * 10 ^ cs.length := by
    intro cs
    induction cs with
    | nil => exact fun n _ => by simp
    | cons c rest ih =>
      intro n hall
      have hc : value c ≤ 9 := by
        have hdigit := hall c List.mem_cons_self
        simp only [isDecimal, Bool.and_eq_true, decide_eq_true_eq] at hdigit
        rw [value]
        omega
      have hrest := ih (10 * n + value c) fun d hd => hall d (List.mem_cons_of_mem _ hd)
      have hfirst : 10 * n + value c + 1 ≤ (n + 1) * 10 := by omega
      refine Nat.lt_of_lt_of_le hrest ?_
      rw [List.length_cons, Nat.pow_succ, Nat.mul_comm (10 ^ rest.length) 10, ← Nat.mul_assoc]
      exact Nat.mul_le_mul_right _ hfirst
  have hlt := hfold cs 0 h
  rwa [Nat.zero_add, Nat.one_mul] at hlt

end Digits

namespace Timestamp

/-! ## Reading the parts -/

theorem isBlank_of_isDecimal {c : Char} (h : Digits.isDecimal c = true) : isBlank c = false := by
  simp only [Digits.isDecimal, Bool.and_eq_true, decide_eq_true_eq] at h
  simp only [isBlank, Bool.or_eq_false_iff, Bool.and_eq_false_iff, decide_eq_false_iff_not,
    beq_eq_false_iff_ne]
  omega

/-- A text that begins with no blank. -/
theorem trimStart_of_nonblank {c : Char} (h : isBlank c = false) (cs : List Char) :
    trimStart (c :: cs) = c :: cs := by
  rw [trimStart, List.dropWhile_cons_of_neg]
  rw [h]
  exact Bool.false_ne_true

theorem trimStart_padded (width n : Nat) (rest : List Char) :
    trimStart (Digits.padded width n ++ rest) = Digits.padded width n ++ rest := by
  obtain ⟨c, cs, heq⟩ := List.exists_cons_of_ne_nil (Digits.padded_ne_nil width n)
  have hc : Digits.isDecimal c = true :=
    Digits.isDecimal_of_mem_padded (heq ▸ List.mem_cons_self)
  rw [heq]
  exact trimStart_of_nonblank (isBlank_of_isDecimal hc) _

/-- Digits behind which no digit is taken, since there are as many as there may be or something
else follows. -/
theorem takeWhile_take {ds rest : List Char} {most : Nat}
    (hall : ∀ c ∈ ds, Digits.isDecimal c = true) (hlength : ds.length ≤ most)
    (hend : ds.length = most ∨ rest.takeWhile Digits.isDecimal = []) :
    ((ds ++ rest).take most).takeWhile Digits.isDecimal = ds := by
  have hrest : (rest.take (most - ds.length)).takeWhile Digits.isDecimal = [] := by
    rcases hend with hend | hend
    · rw [hend, Nat.sub_self]
      rfl
    · cases rest with
      | nil => rw [List.take_nil, List.takeWhile_nil]
      | cons c rest =>
        have hc : Digits.isDecimal c = false := by
          rw [List.takeWhile_cons] at hend
          cases h : Digits.isDecimal c with
          | false => rfl
          | true =>
            rw [h] at hend
            cases hend
        cases most - ds.length with
        | zero => rfl
        | succ k =>
          rw [List.take_succ_cons, List.takeWhile_cons, hc]
          rfl
  rw [List.take_append, List.take_of_length_le hlength, List.takeWhile_append_of_pos hall, hrest,
    List.append_nil]

theorem readDigits_append {ds rest : List Char} {most : Nat}
    (hall : ∀ c ∈ ds, Digits.isDecimal c = true) (hne : ds ≠ []) (hlength : ds.length ≤ most)
    (hend : ds.length = most ∨ rest.takeWhile Digits.isDecimal = []) :
    readDigits most (ds ++ rest) = some (Digits.ofDecimal ds, rest) := by
  rw [readDigits, takeWhile_take hall hlength hend]
  split
  · exact absurd rfl hne
  · rw [List.drop_left]

/-- A number that is padded to its full width is read back. -/
theorem readNumber_padded {width n : Nat} (hpos : 0 < width) (h : n < 10 ^ width)
    (rest : List Char) :
    readNumber width (Digits.padded width n ++ rest) = some (n, rest) := by
  have hlength := Digits.length_padded hpos h
  rw [readNumber, trimStart_padded, readDigits_append (fun _ => Digits.isDecimal_of_mem_padded)
    (Digits.padded_ne_nil _ _) (Nat.le_of_eq hlength) (.inl hlength), Digits.ofDecimal_padded]

theorem readMark_cons {mark : Char} (h : isBlank mark = false) (rest : List Char) :
    readMark mark (mark :: rest) = some rest := by
  rw [readMark, trimStart_of_nonblank h]
  exact if_pos rfl

theorem readDigits_year (n : Nat) (rest : List Char) {most : Nat}
    (h : (Digits.padded 4 n).length ≤ most) :
    readDigits most (Digits.padded 4 n ++ '-' :: rest) = some (n, '-' :: rest) := by
  rw [readDigits_append (fun _ => Digits.isDecimal_of_mem_padded) (Digits.padded_ne_nil _ _) h
    (.inr rfl), Digits.ofDecimal_padded]

theorem readYear_plain {n : Nat} (h : n < 10 ^ 4) (rest : List Char) :
    readYear (Digits.padded 4 n ++ '-' :: rest) = some ((n : Int), '-' :: rest) := by
  have hlength := Digits.length_padded (show 0 < 4 by omega) h
  have hunsigned : readYear (Digits.padded 4 n ++ '-' :: rest) =
      (readDigits 4 (Digits.padded 4 n ++ '-' :: rest)).map fun p => ((p.1 : Int), p.2) := by
    obtain ⟨c, cs, heq⟩ := List.exists_cons_of_ne_nil (Digits.padded_ne_nil 4 n)
    have hc : Digits.isDecimal c = true := Digits.isDecimal_of_mem_padded (heq ▸ List.mem_cons_self)
    rw [readYear.eq_def, trimStart_padded, heq]
    split
    · next h => exact absurd (List.cons.inj h).1 (Digits.ne_of_isDecimal hc rfl)
    · next h => exact absurd (List.cons.inj h).1 (Digits.ne_of_isDecimal hc rfl)
    · rfl
  rw [hunsigned, readDigits_year _ _ (Nat.le_of_eq hlength)]
  rfl

/-- Behind a sign there is no limit to the digits of a year. -/
theorem readDigits_signed (n : Nat) (rest : List Char) :
    readDigits (Digits.padded 4 n ++ '-' :: rest).length (Digits.padded 4 n ++ '-' :: rest) =
      some (n, '-' :: rest) := by
  refine readDigits_year n rest ?_
  rw [List.length_append]
  omega

theorem readYear_minus (n : Nat) (rest : List Char) :
    readYear ('-' :: Digits.padded 4 n ++ '-' :: rest) = some (-(n : Int), '-' :: rest) := by
  rw [readYear.eq_def, List.cons_append, trimStart_of_nonblank rfl]
  show (readDigits _ _).map _ = _
  rw [readDigits_signed]
  rfl

theorem readYear_plus (n : Nat) (rest : List Char) :
    readYear ('+' :: Digits.padded 4 n ++ '-' :: rest) = some ((n : Int), '-' :: rest) := by
  rw [readYear.eq_def, List.cons_append, trimStart_of_nonblank rfl]
  show (readDigits _ _).map _ = _
  rw [readDigits_signed]
  rfl

theorem readYear_writeYear (year : Int) (rest : List Char) :
    readYear (writeYear year ++ '-' :: rest) = some (year, '-' :: rest) := by
  rw [writeYear]
  split
  · next hfour =>
    have hyear : (year.natAbs : Int) = year := by omega
    rw [readYear_plain (by omega), hyear]
  · split
    · next hneg =>
      have hyear : -(year.natAbs : Int) = year := by omega
      rw [readYear_minus, hyear]
    · next hpos =>
      have hyear : (year.natAbs : Int) = year := by omega
      rw [readYear_plus, hyear]

theorem readFraction_padded {width n : Nat} (hpos : 0 < width) (hwidth : width ≤ 9)
    (h : n < 10 ^ width) :
    readFraction ('.' :: Digits.padded width n ++ ['Z']) =
      some (n * 10 ^ (9 - width), ['Z']) := by
  have hlength := Digits.length_padded hpos h
  have hdigits : ((Digits.padded width n ++ ['Z']).take 9).takeWhile Digits.isDecimal =
      Digits.padded width n :=
    takeWhile_take (fun _ => Digits.isDecimal_of_mem_padded) (by omega) (.inr rfl)
  rw [List.cons_append, readFraction, hdigits]
  split
  · next hnil => exact absurd hnil (Digits.padded_ne_nil _ _)
  · rw [List.drop_left, hlength, Digits.ofDecimal_padded]
    rfl

theorem readFraction_writeFraction {nanos : Nat} (h : nanos < 1000000000) :
    readFraction (writeFraction nanos ++ ['Z']) = some (nanos, ['Z']) := by
  rw [writeFraction]
  split
  · next hzero =>
    rw [hzero]
    rfl
  split
  · rw [readFraction_padded (by omega) (by omega) (by omega)]
    congr 2
    omega
  split
  · rw [readFraction_padded (by omega) (by omega) (by omega)]
    congr 2
    omega
  · rw [readFraction_padded (by omega) (by omega) (by omega)]
    congr 2
    omega

/-! ## Points in time -/

/-- A point in time that a text can give. -/
structure Valid (t : Timestamp) : Prop where
  date : t.date.isValid = true
  second : t.second < 86400
  nanos : t.nanos < 2000000000
  /-- only the last second of a minute can be followed by a leap second -/
  leap : 1000000000 ≤ t.nanos → t.second % 60 = 59

theorem write_eq (t : Timestamp) :
    t.write = writeYear t.date.year ++ '-' :: (Digits.padded 2 t.date.month ++
      '-' :: (Digits.padded 2 t.date.day ++ 'T' :: (Digits.padded 2 (t.second / 3600) ++
        ':' :: (Digits.padded 2 (t.second / 60 % 60) ++
          ':' :: (Digits.padded 2 (t.second % 60 + t.nanos / 1000000000) ++
            (writeFraction (t.nanos % 1000000000) ++ ['Z'])))))) := by
  rw [write, writeWith]
  simp only [List.append_assoc, List.cons_append]

theorem isValid_iff {d : Date} : d.isValid = true ↔ Date.inRange d.year = true ∧ 1 ≤ d.month ∧
    d.month ≤ 12 ∧ 1 ≤ d.day ∧ d.day ≤ Date.daysIn d.year d.month := by
  simp only [Date.isValid, Bool.and_eq_true, decide_eq_true_eq, and_assoc]

theorem daysIn_le (year : Int) (month : Nat) : Date.daysIn year month ≤ 31 := by
  rw [Date.daysIn]
  repeat' split
  all_goals omega

theorem shift_zero {t : Timestamp} (h : t.second < 86400) : shift t 0 = t := by
  rw [shift, if_neg (by omega), if_neg (by omega)]
  congr 1

/-- The parts that are written make up the point in time, with the leap second taken out of the
seconds again. -/
theorem Valid.assembled {t : Timestamp} (h : t.Valid) :
    (⟨⟨t.date.year, t.date.month, t.date.day⟩,
      3600 * (t.second / 3600) + 60 * (t.second / 60 % 60) +
        (t.second % 60 + t.nanos / 1000000000 - (t.second % 60 + t.nanos / 1000000000) / 60),
      t.nanos % 1000000000 + 1000000000 * ((t.second % 60 + t.nanos / 1000000000) / 60)⟩ :
      Timestamp) = t := by
  have hleap : t.nanos / 1000000000 = 0 ∨ t.nanos / 1000000000 = 1 ∧ t.second % 60 = 59 := by
    have hnanos := h.nanos
    have hlast := h.leap
    omega
  have hquotient : (t.second % 60 + t.nanos / 1000000000) / 60 = t.nanos / 1000000000 := by omega
  have hsecond : 3600 * (t.second / 3600) + 60 * (t.second / 60 % 60) +
      (t.second % 60 + t.nanos / 1000000000 - t.nanos / 1000000000) = t.second := by omega
  have hnanos : t.nanos % 1000000000 + 1000000000 * (t.nanos / 1000000000) = t.nanos := by omega
  rw [hquotient, hsecond, hnanos]

theorem bind_read {α β : Type} {x : Option α} {a : α} (h : x = some a) (f : α → Option β) :
    (x >>= f) = f a := by
  rw [h]
  rfl

theorem guard_of {p : Prop} [Decidable p] (h : p) : (guard p : Option Unit) = some () := if_pos h

/-- A point in time is read back from its text. -/
theorem Valid.read_write {t : Timestamp} (h : t.Valid) : read? t.write = some t := by
  obtain ⟨hdate, hsecond, hnanos, hleap⟩ := h
  obtain ⟨hyear, hmonth, hmonth', hday, hday'⟩ := isValid_iff.mp hdate
  have hdays := daysIn_le t.date.year t.date.month
  have hdash : isBlank '-' = false := rfl
  have hcolon : isBlank ':' = false := rfl
  have htwo : 0 < 2 := by omega
  have hsum : t.second % 60 + t.nanos / 1000000000 ≤ 60 := by omega
  have hoffset : readOffset (trimStart ['Z']) = some (0, []) := rfl
  have hclock : (t.date.isValid && decide (t.second / 3600 ≤ 23) &&
      decide (t.second / 60 % 60 ≤ 59) &&
      decide (t.second % 60 + t.nanos / 1000000000 ≤ 60)) = true := by
    simp only [Bool.and_eq_true, decide_eq_true_eq]
    exact ⟨⟨⟨hdate, by omega⟩, by omega⟩, hsum⟩
  have hassembled := Valid.assembled ⟨hdate, hsecond, hnanos, hleap⟩
  rw [write_eq, read?]
  -- the date
  refine (bind_read (readYear_writeYear _ _) _).trans ?_
  refine (bind_read (readMark_cons hdash _) _).trans ?_
  refine (bind_read (readNumber_padded htwo (by omega) _) _).trans ?_
  refine (bind_read (readMark_cons hdash _) _).trans ?_
  refine (bind_read (readNumber_padded htwo (by omega) _) _).trans ?_
  refine (bind_read (guard_of (show isSeparator 'T' = true from rfl)) _).trans ?_
  -- the time of day
  refine (bind_read (readNumber_padded htwo (by omega) _) _).trans ?_
  refine (bind_read (readMark_cons hcolon _) _).trans ?_
  refine (bind_read (readNumber_padded htwo (by omega) _) _).trans ?_
  refine (bind_read (readMark_cons hcolon _) _).trans ?_
  refine (bind_read (readNumber_padded htwo (by omega) _) _).trans ?_
  refine (bind_read (readFraction_writeFraction (by omega)) _).trans ?_
  -- the offset, and what the parts must satisfy
  refine (bind_read hoffset _).trans ?_
  refine (bind_read (guard_of (show (trimStart []).isEmpty = true from rfl)) _).trans ?_
  refine (bind_read (guard_of hclock) _).trans ?_
  refine (bind_read (guard_of (show Int.natAbs 0 < 24 * 60 by decide)) _).trans ?_
  dsimp only
  rw [hassembled, shift_zero hsecond]
  exact bind_read (guard_of hyear) _

/-! ## What is read -/

theorem readFraction_lt {cs rest : List Char} {nanos : Nat}
    (h : readFraction cs = some (nanos, rest)) : nanos < 1000000000 := by
  rw [readFraction.eq_def] at h
  split at h
  · next after =>
    generalize hdigits : (after.take 9).takeWhile Digits.isDecimal = digits at h
    have hall : ∀ c ∈ digits, Digits.isDecimal c = true :=
      List.all_eq_true.mp (hdigits ▸ List.all_takeWhile)
    have hlength : digits.length ≤ 9 := by
      have hprefix := (List.takeWhile_prefix (l := after.take 9) Digits.isDecimal).length_le
      rw [hdigits, List.length_take] at hprefix
      omega
    split at h
    · cases h
    · cases h
      have hlt := Digits.ofDecimal_lt hall
      calc Digits.ofDecimal digits * Nat.pow 10 (9 - digits.length)
          < 10 ^ digits.length * 10 ^ (9 - digits.length) :=
            Nat.mul_lt_mul_of_pos_right hlt (Nat.pow_pos (by omega))
        _ = 10 ^ 9 := by rw [← Nat.pow_add]; congr 1; omega
  · cases h
    decide

theorem le_daysIn (year : Int) (month : Nat) : 28 ≤ Date.daysIn year month := by
  rw [Date.daysIn]
  repeat' split
  all_goals omega

theorem valid_next {d : Date} (h : d.isValid = true) (hyear : Date.inRange d.next.year = true) :
    d.next.isValid = true := by
  rw [isValid_iff] at h ⊢
  obtain ⟨-, hmonth, hmonth', hday, hday'⟩ := h
  rw [Date.next] at hyear ⊢
  split
  · next hlater =>
    rw [if_pos hlater] at hyear
    exact ⟨hyear, hmonth, hmonth', Nat.succ_pos _, hlater⟩
  · next hlast =>
    rw [if_neg hlast] at hyear
    have hfirst : ∀ year month, 1 ≤ Date.daysIn year month := fun year month =>
      Nat.le_trans (by decide) (le_daysIn year month)
    split
    · next hmore =>
      rw [if_pos hmore] at hyear
      exact ⟨hyear, Nat.succ_pos _, hmore, Nat.le_refl 1, hfirst _ _⟩
    · next hnone =>
      rw [if_neg hnone] at hyear
      exact ⟨hyear, Nat.le_refl 1, Nat.le_add_left 1 11, Nat.le_refl 1, hfirst _ _⟩

theorem valid_previous {d : Date} (h : d.isValid = true)
    (hyear : Date.inRange d.previous.year = true) : d.previous.isValid = true := by
  rw [isValid_iff] at h ⊢
  obtain ⟨-, hmonth, hmonth', hday, hday'⟩ := h
  rw [Date.previous] at hyear ⊢
  split
  · next hearlier =>
    rw [if_pos hearlier] at hyear
    exact ⟨hyear, hmonth, hmonth', Nat.le_sub_one_of_lt hearlier, Nat.le_trans (Nat.sub_le _ _) hday'⟩
  · next hfirst =>
    rw [if_neg hfirst] at hyear
    split
    · next hmore =>
      rw [if_pos hmore] at hyear
      exact ⟨hyear, Nat.le_sub_one_of_lt hmore, Nat.le_trans (Nat.sub_le _ _) hmonth',
        Nat.le_trans (by decide) (le_daysIn _ _), Nat.le_refl _⟩
    · next hnone =>
      rw [if_neg hnone] at hyear
      exact ⟨hyear, Nat.le_add_left 1 11, Nat.le_refl 12, Nat.le_add_left 1 30, Nat.le_refl 31⟩

theorem valid_shift {t : Timestamp} (h : t.Valid) {offset : Int} (hoffset : offset.natAbs < 24 * 60)
    (hyear : Date.inRange (shift t offset).date.year = true) : (shift t offset).Valid := by
  obtain ⟨hdate, hsecond, hnanos, hleap⟩ := h
  simp only [shift] at hyear ⊢
  split at hyear
  · next hbefore =>
    rw [if_pos hbefore]
    exact ⟨valid_previous hdate hyear, by simp only; omega, hnanos, fun h => by
      have := hleap h
      simp only
      omega⟩
  · next hafter =>
    rw [if_neg hafter]
    split at hyear
    · next hbeyond =>
      rw [if_pos hbeyond]
      exact ⟨valid_next hdate hyear, by simp only; omega, hnanos, fun h => by
        have := hleap h
        simp only
        omega⟩
    · next hwithin =>
      rw [if_neg hwithin]
      exact ⟨hdate, by simp only; omega, hnanos, fun h => by
        have := hleap h
        simp only
        omega⟩

theorem of_bind_guard {α : Type} {p : Prop} [Decidable p] {f : Unit → Option α} {a : α}
    (h : (guard p : Option Unit).bind f = some a) : p ∧ f () = some a := by
  by_cases hp : p
  · rw [guard_of hp] at h
    exact ⟨hp, h⟩
  · rw [guard, if_neg hp] at h
    cases h

/-- Whatever is read is a point in time that a text can give. -/
theorem valid_of_read {cs : List Char} {t : Timestamp} (h : read? cs = some t) : t.Valid := by
  rw [read?] at h
  obtain ⟨⟨year, cs⟩, -, h⟩ := Option.bind_eq_some_iff.mp h
  obtain ⟨cs, -, h⟩ := Option.bind_eq_some_iff.mp h
  obtain ⟨⟨month, cs⟩, -, h⟩ := Option.bind_eq_some_iff.mp h
  obtain ⟨cs, -, h⟩ := Option.bind_eq_some_iff.mp h
  obtain ⟨⟨day, cs⟩, -, h⟩ := Option.bind_eq_some_iff.mp h
  simp only at h
  split at h
  · obtain ⟨-, h⟩ := of_bind_guard h
    obtain ⟨⟨hour, cs⟩, -, h⟩ := Option.bind_eq_some_iff.mp h
    obtain ⟨cs, -, h⟩ := Option.bind_eq_some_iff.mp h
    obtain ⟨⟨minute, cs⟩, -, h⟩ := Option.bind_eq_some_iff.mp h
    obtain ⟨cs, -, h⟩ := Option.bind_eq_some_iff.mp h
    obtain ⟨⟨second, cs⟩, -, h⟩ := Option.bind_eq_some_iff.mp h
    obtain ⟨⟨nanos, cs⟩, hnanos, h⟩ := Option.bind_eq_some_iff.mp h
    obtain ⟨⟨offset, cs⟩, -, h⟩ := Option.bind_eq_some_iff.mp h
    obtain ⟨-, h⟩ := of_bind_guard h
    obtain ⟨hclock, h⟩ := of_bind_guard h
    obtain ⟨hoffset, h⟩ := of_bind_guard h
    obtain ⟨hyear, h⟩ := of_bind_guard h
    cases h
    have hfraction := readFraction_lt hnanos
    simp only [Bool.and_eq_true, decide_eq_true_eq] at hclock
    obtain ⟨⟨⟨hdate, hhour⟩, hminute⟩, hsecond⟩ := hclock
    have hleap : second / 60 = 0 ∨ second / 60 = 1 ∧ second - second / 60 = 59 := by omega
    refine valid_shift ⟨hdate, ?_, ?_, fun hlate => ?_⟩ hoffset hyear
    · show 3600 * hour + 60 * minute + (second - second / 60) < 86400
      omega
    · show nanos + 1000000000 * (second / 60) < 2000000000
      omega
    · change 1000000000 ≤ nanos + 1000000000 * (second / 60) at hlate
      show (3600 * hour + 60 * minute + (second - second / 60)) % 60 = 59
      rcases hleap with hzero | ⟨-, hlast⟩
      · omega
      · rw [hlast]
        omega
  · cases h

end Timestamp
end TargetControl
