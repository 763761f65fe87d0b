import Mathlib.Algebra.Group.Nat.Defs
import Mathlib.Data.List.Basic
import SearchClient.Proofs.Number
import SearchClient.Toml.Format

/-! Dates and times that are written are read back. Each part is written with its number of digits, by which the reader
finds its end; only the fraction of a second goes on as long as there are digits. -/

namespace SearchClient
open Text

/-! ### What exists -/

/-- A day that the calendar has, in a year of four digits. -/
structure Date.Valid (date : Date) : Prop where
  year : date.year < 10000
  month : 1 ≤ date.month ∧ date.month ≤ 12
  day : 1 ≤ date.day ∧ date.day ≤ daysOf date.year date.month

structure TimeOfDay.Valid (time : TimeOfDay) : Prop where
  hour : time.hour ≤ 23
  minute : time.minute ≤ 59
  second : time.second ≤ 60
  nanosecond : time.nanosecond < 1000000000

/-- Universal time, or less than a day before or behind it. -/
def TimeOffset.Valid : TimeOffset → Prop
  | .universal => True
  | .ahead n => n.natAbs < 1440

inductive DateTime.Valid : DateTime → Prop
  | date {date : Date} : date.Valid → Valid { date := some date }
  | time {time : TimeOfDay} : time.Valid → Valid { time := some time }
  | both {date : Date} {time : TimeOfDay} {offset : Option TimeOffset} : date.Valid → time.Valid →
      (∀ ahead, offset = some ahead → ahead.Valid) → Valid ⟨some date, some time, offset⟩

/-! ### Numbers with a width -/

section Padded
variable {width n : Nat}

theorem length_padded (hwidth : 0 < width) (h : n < 10 ^ width) : (padded width n).length = width := by
  have hle : (Nat.toDigits 10 n).length ≤ width := (Nat.length_toDigits_le_iff (by omega) hwidth).mpr h
  rw [padded, List.length_append, List.length_replicate]
  omega

theorem isDigit_of_mem_padded {c : Char} (hc : c ∈ padded width n) : c.isDigit = true := by
  rcases List.mem_append.mp hc with hc | hc
  · rw [List.eq_of_mem_replicate hc]
    rfl
  · exact isDigit_of_mem_toDigits c hc

theorem exists_padded (width n : Nat) : ∃ c cs, padded width n = c :: cs ∧ c.isDigit = true := by
  have hne : padded width n ≠ [] := List.append_ne_nil_of_right_ne_nil _ Nat.toDigits_ne_nil
  obtain ⟨c, cs, hpadded⟩ := List.exists_cons_of_ne_nil hne
  exact ⟨c, cs, hpadded, isDigit_of_mem_padded (hpadded ▸ List.mem_cons_self)⟩

/-- Zeros in front of digits do not count. -/
theorem natural?_replicate_append (k : Nat) {digits : List Char} (h : digits ≠ []) :
    natural? (List.replicate k '0' ++ digits) = natural? digits := by
  induction k with
  | zero => rfl
  | succ k ih =>
    rw [← ih, List.replicate_succ, List.cons_append]
    have hne : List.replicate k '0' ++ digits ≠ [] := List.append_ne_nil_of_right_ne_nil _ h
    simp [natural?, hne]

theorem natural?_padded (width n : Nat) : natural? (padded width n) = some n := by
  rw [padded, natural?_replicate_append _ Nat.toDigits_ne_nil, natural?_toDigits]

theorem twoDigits?_padded {low high : Nat} (hlow : low ≤ n) (hhigh : n ≤ high) (hbound : high < 100)
    (rest : List Char) : twoDigits? low high (padded 2 n ++ rest) = some (n, rest) := by
  obtain ⟨a, b, hpadded⟩ := List.length_eq_two.mp (length_padded (by omega) (show n < 10 ^ 2 by omega))
  have hvalue := natural?_padded 2 n
  rw [hpadded] at hvalue ⊢
  simp [twoDigits?, hvalue, hlow, hhigh]

end Padded

/-! ### Parts -/

theorem daysOf_le (year month : Nat) : daysOf year month ≤ 31 := by
  unfold daysOf
  split_ifs <;> omega

theorem Date.read?_text {date : Date} (h : date.Valid) (rest : List Char) :
    Date.read? (date.text ++ rest) = some (some date, rest) := by
  have hyear := length_padded (by omega) (show date.year < 10 ^ 4 from h.year)
  have hvalue := natural?_padded 4 date.year
  match hdigits : padded 4 date.year, hyear with
  | [a, b, c, d], _ =>
    rw [hdigits] at hvalue
    have hmonth := twoDigits?_padded h.month.1 h.month.2 (by omega) ('-' :: (padded 2 date.day ++ rest))
    have hday := twoDigits?_padded h.day.1 h.day.2 (Nat.lt_of_le_of_lt (daysOf_le ..) (by omega)) rest
    simp [Date.read?, Date.text, hdigits, hvalue, hmonth, hday]

/-- A time of day is no date: its third character is no digit. -/
theorem Date.read?_time {time : TimeOfDay} (h : time.Valid) (rest : List Char) :
    Date.read? (time.text ++ rest) = some (none, time.text ++ rest) := by
  have hlt : time.hour < 10 ^ 2 := Nat.lt_of_le_of_lt h.hour (by omega)
  obtain ⟨a, b, hhour⟩ := List.length_eq_two.mp (length_padded (by omega) hlt)
  have htext : ∃ cs, time.text ++ rest = a :: b :: ':' :: cs := by
    rw [TimeOfDay.text, hhour]
    exact ⟨_, rfl⟩
  obtain ⟨cs, hcs⟩ := htext
  rw [hcs]
  unfold Date.read?
  split
  · next heq =>
    cases heq
    rw [natural?_eq_none (c := ':') (by simp) (by decide)]
  · rfl

/-- The digits of a fraction are those of the number up to the zeros at its end. -/
theorem exists_fractionText {n : Nat} (hzero : n ≠ 0) :
    ∃ digits k, fractionText n = '.' :: digits ∧ digits ≠ [] ∧ padded 9 n = digits ++ List.replicate k '0' := by
  let zeros := (padded 9 n).reverse.takeWhile (· == '0')
  let digits := ((padded 9 n).reverse.dropWhile (· == '0')).reverse
  have hzeros : zeros = List.replicate zeros.length '0' :=
    List.eq_replicate_of_mem fun c hc => by simpa using List.mem_takeWhile_imp (p := (· == '0')) hc
  have hsplit : padded 9 n = digits ++ List.replicate zeros.length '0' := by
    rw [← List.reverse_replicate, ← hzeros, ← List.reverse_append, List.takeWhile_append_dropWhile, List.reverse_reverse]
  refine ⟨digits, zeros.length, ?_, fun hempty => hzero ?_, hsplit⟩
  · rw [fractionText, if_neg (by simpa using hzero)]
  -- Nothing but zeros is zero.
  · have hvalue := natural?_padded 9 n
    rw [hsplit, hempty, List.nil_append] at hvalue
    cases hcount : zeros.length with
    | zero =>
      rw [hcount] at hvalue
      cases hvalue
    | succ k =>
      rw [hcount, List.replicate_succ', natural?_replicate_append k (List.cons_ne_nil _ _)] at hvalue
      exact (Option.some.inj hvalue).symm

/-- The text behind a fraction of a second does not go on with it. -/
def EndsFraction (rest : List Char) : Prop := ∀ c ∈ rest.head?, c.isDigit = false ∧ c ≠ '.'

theorem nanoseconds_fractionText {n : Nat} (h : n < 1000000000) {rest : List Char} (hrest : EndsFraction rest) :
    nanoseconds (fractionText n ++ rest) = (n, rest) := by
  by_cases hzero : n = 0
  · subst hzero
    unfold nanoseconds
    split
    · next cs heq =>
      change rest = '.' :: cs at heq
      exact absurd rfl (hrest '.' (by rw [heq]; rfl)).2
    · rfl
  · obtain ⟨digits, k, htext, hne, hpadded⟩ := exists_fractionText hzero
    have hdigits : ∀ c ∈ digits, c.isDigit = true := fun c hc =>
      isDigit_of_mem_padded (hpadded ▸ List.mem_append_left _ hc)
    have hstop : ∀ c ∈ rest.head?, c.isDigit = false := fun c hc => (hrest c hc).1
    have hlength : digits.length + k = 9 := by
      rw [← length_padded (by omega) (show n < 10 ^ 9 from h), hpadded, List.length_append, List.length_replicate]
    have hfilled : (digits ++ List.replicate 9 '0').take 9 = padded 9 n := by
      rw [hpadded, List.take_append, List.take_of_length_le (by omega), List.take_replicate]
      congr 2
      omega
    have hrun : (digits ++ rest).takeWhile Char.isDigit = digits := takeWhile_append_of_stop hdigits hstop
    have hbehind : (digits ++ rest).dropWhile Char.isDigit = rest := dropWhile_append_of_stop hdigits hstop
    have hvalue : (natural? ((digits ++ List.replicate 9 '0').take 9)).getD 0 = n := by
      rw [hfilled, natural?_padded, Option.getD_some]
    simpa [htext, nanoseconds, hrun, hbehind, hne] using hvalue

theorem TimeOfDay.read?_text {time : TimeOfDay} (h : time.Valid) {rest : List Char} (hrest : EndsFraction rest) :
    TimeOfDay.read? (time.text ++ rest) = some (some time, rest) := by
  have hhour := twoDigits?_padded (Nat.zero_le _) h.hour (by omega)
    (':' :: (padded 2 time.minute ++ ':' :: (padded 2 time.second ++ (fractionText time.nanosecond ++ rest))))
  have hminute := twoDigits?_padded (Nat.zero_le _) h.minute (by omega)
    (':' :: (padded 2 time.second ++ (fractionText time.nanosecond ++ rest)))
  have hsecond := twoDigits?_padded (Nat.zero_le _) h.second (by omega) (fractionText time.nanosecond ++ rest)
  simp [TimeOfDay.read?, TimeOfDay.text, hhour, hminute, hsecond, nanoseconds_fractionText h.nanosecond hrest]

theorem TimeOffset.read?_text {offset : TimeOffset} (h : offset.Valid) (rest : List Char) :
    TimeOffset.read? (offset.text ++ rest) = some (some offset, rest) := by
  cases offset with
  | universal => rfl
  | ahead n =>
    change n.natAbs < 1440 at h
    obtain ⟨hours, hhours⟩ : ∃ hours, n.natAbs / 60 = hours := ⟨_, rfl⟩
    obtain ⟨minutes, hminutes⟩ : ∃ minutes, n.natAbs % 60 = minutes := ⟨_, rfl⟩
    have hhour := twoDigits?_padded (Nat.zero_le hours) (show hours ≤ 23 by omega) (by omega)
      (':' :: (padded 2 minutes ++ rest))
    have hminute := twoDigits?_padded (Nat.zero_le minutes) (show minutes ≤ 59 by omega) (by omega) rest
    by_cases hn : n < 0
    · have hvalue : -((hours : Int) * 60 + minutes) = n := by omega
      simp only [TimeOffset.text, hhours, hminutes, if_pos hn]
      simpa [TimeOffset.read?, hhour, hminute] using hvalue
    · have hvalue : (hours : Int) * 60 + minutes = n := by omega
      simp only [TimeOffset.text, hhours, hminutes, if_neg hn]
      simpa [TimeOffset.read?, hhour, hminute] using hvalue

/-! ### Dates and times -/

/-- The text behind a date or a time does not go on with it. -/
structure EndsDateTime (rest : List Char) : Prop where
  mark : ∀ c ∈ rest.head?, c.isDigit = false ∧ c ∉ ['.', 'T', 't', 'Z', 'z', '+', '-']
  /-- A time may also follow a date after a space. -/
  space : ∀ c cs, rest = ' ' :: c :: cs → c.isDigit = false

namespace EndsDateTime
variable {rest : List Char}

theorem endsFraction (h : EndsDateTime rest) : EndsFraction rest :=
  fun c hc => ⟨(h.mark c hc).1, fun hdot => (h.mark c hc).2 (by simp [hdot])⟩

theorem readTime? (h : EndsDateTime rest) : ∃ cs, TimeOfDay.readAfterDate? rest = some (none, cs) := by
  match rest with
  | [] => exact ⟨_, rfl⟩
  | c :: cs =>
    have hc := (h.mark c rfl).2
    simp only [List.mem_cons, not_or] at hc
    by_cases hspace : c = ' '
    · refine ⟨cs, ?_⟩
      -- Two characters of which the first is no digit are no hour.
      have hhour : twoDigits? 0 23 cs = none := by
        match cs with
        | [] | [_] => rfl
        | d :: e :: _ =>
          have hd : natural? [d, e] = none := natural?_eq_none List.mem_cons_self (h.space d _ (by rw [hspace]))
          rw [twoDigits?, hd]
          rfl
      simp [TimeOfDay.readAfterDate?, TimeOfDay.read?, hspace, hhour]
    · exact ⟨_, by simp [TimeOfDay.readAfterDate?, hc, hspace]; rfl⟩

theorem readOffset? (h : EndsDateTime rest) : TimeOffset.read? rest = some (none, rest) := by
  cases rest with
  | nil => rfl
  | cons c cs =>
    have hc := (h.mark c rfl).2
    simp only [List.mem_cons, not_or] at hc
    simp [TimeOffset.read?, hc]

end EndsDateTime

theorem TimeOffset.endsFraction_text {offset : TimeOffset} (rest : List Char) : EndsFraction (offset.text ++ rest) := by
  intro c hc
  cases offset with
  | universal =>
    cases hc
    decide
  | ahead n =>
    cases hc
    split <;> decide

theorem DateTime.read?_text {d : DateTime} (h : d.Valid) {rest : List Char} (hrest : EndsDateTime rest) :
    DateTime.read? (d.text ++ rest) = some (some d, rest) := by
  cases h with
  | date hdate =>
    obtain ⟨cs, htime⟩ := hrest.readTime?
    simp [DateTime.read?, DateTime.text, Date.read?_text hdate, htime]
  | time htime =>
    simp [DateTime.read?, DateTime.text, Date.read?_time htime, TimeOfDay.read?_text htime hrest.endsFraction]
  | @both date time offset hdate htime hoffset =>
    cases offset with
    | none =>
      simp [DateTime.read?, DateTime.text, Date.read?_text hdate, TimeOfDay.readAfterDate?,
        TimeOfDay.read?_text htime hrest.endsFraction, hrest.readOffset?]
    | some offset =>
      simp [DateTime.read?, DateTime.text, Date.read?_text hdate, TimeOfDay.readAfterDate?,
        TimeOfDay.read?_text htime (offset.endsFraction_text rest), TimeOffset.read?_text (hoffset offset rfl)]

example : (DateTime.mk (some ⟨1979, 5, 27⟩) (some ⟨7, 32, 0, 500000000⟩) (some (.ahead (-480)))).text =
    "1979-05-27T07:32:00.5-08:00".toList := by decide

theorem DateTime.exists_text {d : DateTime} (h : d.Valid) : ∃ c cs, d.text = c :: cs ∧ c.isDigit = true := by
  cases h with
  | @date date _ | @both date _ _ _ _ _ =>
    obtain ⟨c, cs, hyear, hc⟩ := exists_padded 4 date.year
    exact ⟨c, _, by simp [DateTime.text, Date.text, hyear]; rfl, hc⟩
  | @time time _ =>
    obtain ⟨c, cs, hhour, hc⟩ := exists_padded 2 time.hour
    exact ⟨c, _, by simp [DateTime.text, TimeOfDay.text, hhour]; rfl, hc⟩

namespace Toml

/-- A value that begins with a digit is a date or time if one can be read there. -/
theorem value?_of_isDigit {c : Char} (hc : c.isDigit = true) (depth : Nat) (cs : List Char) {d : DateTime}
    {rest : List Char} (h : DateTime.read? (c :: cs) = some (some d, rest)) :
    value? depth (c :: cs) = some (.dateTime d, rest) := by
  unfold value?
  split
  case h_7 =>
    split
    case h_3 => simp [h]
    all_goals
      next heq =>
        cases heq
        cases hc
  all_goals
    next heq =>
      cases heq
      cases hc

/-- A date or time that is written as a value is read back. -/
theorem value?_writeValue_dateTime {d : DateTime} (h : d.Valid) (depth : Nat) {rest : List Char}
    (hrest : EndsDateTime rest) :
    value? depth (writeValue (.dateTime d) ++ rest) = some (.dateTime d, rest) := by
  obtain ⟨c, cs, htext, hc⟩ := d.exists_text h
  have hread := DateTime.read?_text h hrest
  rw [htext, List.cons_append] at hread
  rw [show writeValue (.dateTime d) = c :: cs from htext, List.cons_append]
  exact value?_of_isDigit hc depth _ hread

end Toml

end SearchClient
