import Mathlib.Algebra.Order.Ring.Nat
import Mathlib.Data.List.TakeWhile

/-! Decimal numbers in text: what `strtol` reads, and what `%d` writes. -/

namespace Decimal

def isBlank (c : Char) : Bool := c = ' ' || ('\t' ≤ c && c ≤ '\r')

def takeSign : List Char → Bool × List Char
  | '-' :: s => (true, s)
  | '+' :: s => (false, s)
  | s => (false, s)

def signed (negative : Bool) (n : Nat) : Int := if negative then -n else n

def number (s : List Char) : Option (Int × List Char) :=
  let t := takeSign (s.dropWhile isBlank)
  let digits := t.2.takeWhile Char.isDigit
  if digits = [] then none
  else some (signed t.1 (Nat.ofDigitChars 10 digits 0), t.2.dropWhile Char.isDigit)

/-- `strtol` of base 10, with the text from where it stops; it does not move on without digits. -/
def strtol (longMax : Nat) (s : List Char) : Int × List Char :=
  match number s with
  | none => (0, s)
  | some (n, rest) => (max (min n longMax) (-longMax - 1), rest)

def render (n : Int) : List Char := n.repr.toList

structure Breaks (c : Char) : Prop where
  blank : isBlank c = false
  minus : c ≠ '-'
  plus : c ≠ '+'
  digit : c.isDigit = false

variable {c : Char} {s t rest : List Char} {n : Int} {longMax : Nat}

theorem takeSign_of_ne (hminus : c ≠ '-') (hplus : c ≠ '+') (s : List Char) :
    takeSign (c :: s) = (false, c :: s) := by
  rw [takeSign]
  · intro rest heq
    exact hminus (List.cons.inj heq).1
  · intro rest heq
    exact hplus (List.cons.inj heq).1

theorem takeSign_append (h : Breaks c) (s rest : List Char) :
    takeSign (s ++ c :: rest) = ((takeSign s).1, (takeSign s).2 ++ c :: rest) := by
  cases s with
  | nil => exact takeSign_of_ne h.minus h.plus rest
  | cons d s =>
    by_cases hminus : d = '-'
    · subst hminus
      rfl
    · by_cases hplus : d = '+'
      · subst hplus
        rfl
      · rw [List.cons_append, takeSign_of_ne hminus hplus, takeSign_of_ne hminus hplus]
        rfl

theorem takeSign_suffix (s : List Char) : (takeSign s).2 <:+ s := by
  cases s with
  | nil => exact List.suffix_rfl
  | cons d s =>
    by_cases hminus : d = '-'
    · subst hminus
      exact List.suffix_cons _ _
    · by_cases hplus : d = '+'
      · subst hplus
        exact List.suffix_cons _ _
      · simp only [takeSign_of_ne hminus hplus, List.suffix_rfl]

theorem dropWhile_append_of_neg {p : Char → Bool} (h : p c = false) (s rest : List Char) :
    (s ++ c :: rest).dropWhile p = s.dropWhile p ++ c :: rest := by
  induction s with
  | nil => simp [h]
  | cons d s ih =>
    by_cases hd : p d = true
    · simp [hd, ih]
    · simp [hd]

theorem takeWhile_append_of_neg {p : Char → Bool} (h : p c = false) (s rest : List Char) :
    (s ++ c :: rest).takeWhile p = s.takeWhile p := by
  induction s with
  | nil => simp [h]
  | cons d s ih =>
    by_cases hd : p d = true
    · simp [hd, ih]
    · simp [hd]

theorem number_append (h : Breaks c) (s rest : List Char) :
    number (s ++ c :: rest) = (number s).map fun p => (p.1, p.2 ++ c :: rest) := by
  rw [number, number, dropWhile_append_of_neg h.blank, takeSign_append h]
  dsimp only
  rw [takeWhile_append_of_neg h.digit, dropWhile_append_of_neg h.digit]
  split
  · rfl
  · rfl

theorem Breaks.not_mem_number (h : Breaks c) (hs : number s = some (n, [])) : c ∉ s := by
  intro hmem
  obtain ⟨t, rest, rfl⟩ := List.append_of_mem hmem
  rw [number_append h] at hs
  rcases ht : number t with _ | ⟨m, u⟩
  · rw [ht] at hs
    cases hs
  · rw [ht] at hs
    have hrest := congrArg Prod.snd (Option.some.inj hs)
    exact absurd hrest (List.append_ne_nil_of_right_ne_nil u (List.cons_ne_nil c rest))

theorem number_suffix (h : number s = some (n, rest)) : rest <:+ s ∧ rest.length < s.length := by
  rw [number] at h
  split at h
  · cases h
  · rename_i hdigits
    obtain rfl := (Prod.mk.inj (Option.some.inj h)).2
    have hblank : s.dropWhile isBlank <:+ s := List.dropWhile_suffix isBlank
    have hsign := takeSign_suffix (s.dropWhile isBlank)
    have hall := congrArg List.length
      (List.takeWhile_append_dropWhile (p := Char.isDigit) (l := (takeSign (s.dropWhile isBlank)).2))
    rw [List.length_append] at hall
    have hpos := List.length_pos_iff.mpr hdigits
    have hle := (hsign.trans hblank).length_le
    exact ⟨((List.dropWhile_suffix _).trans hsign).trans hblank, by omega⟩

theorem strtol_none (h : number s = none) : strtol longMax s = (0, s) := by
  rw [strtol, h]

theorem strtol_some (h : number s = some (n, rest)) :
    strtol longMax s = (max (min n longMax) (-longMax - 1), rest) := by
  rw [strtol, h]

theorem strtol_suffix (longMax : Nat) (s : List Char) : (strtol longMax s).2 <:+ s := by
  rcases h : number s with _ | ⟨n, rest⟩
  · simp only [strtol_none h, List.suffix_rfl]
  · rw [strtol_some h]
    exact (number_suffix h).1

theorem strtol_append (longMax : Nat) (h : Breaks c) (s rest : List Char) :
    strtol longMax (s ++ c :: rest) = ((strtol longMax s).1, (strtol longMax s).2 ++ c :: rest) := by
  have hnum := number_append h s rest
  rcases hs : number s with _ | ⟨n, t⟩
  · rw [hs] at hnum
    rw [strtol_none hnum, strtol_none hs]
  · rw [hs] at hnum
    rw [strtol_some hnum, strtol_some hs]

theorem strtol_fits (h : number s = some (n, rest)) (hlow : -longMax - 1 ≤ n) (hhigh : n ≤ longMax) :
    strtol longMax s = (n, rest) := by
  rw [strtol_some h, min_eq_left hhigh, max_eq_left hlow]

theorem strtol_ends : (strtol longMax s).2 = [] ↔ s = [] ∨ ∃ n, number s = some (n, []) := by
  rcases h : number s with _ | ⟨n, rest⟩
  · rw [strtol_none h]
    constructor
    · intro hs
      exact Or.inl hs
    · rintro (hs | ⟨n, hn⟩)
      · exact hs
      · cases hn
  · rw [strtol_some h]
    constructor
    · intro hrest
      dsimp only at hrest
      exact Or.inr ⟨n, by rw [hrest]⟩
    · rintro (rfl | ⟨m, hm⟩)
      · cases h
      · cases hm
        rfl

theorem strtol_stops (h : Breaks c) (hs : (strtol longMax s).2 = c :: rest) :
    ∃ t, s = t ++ c :: rest ∧ (strtol longMax t).2 = [] ∧ (strtol longMax t).1 = (strtol longMax s).1 := by
  obtain ⟨t, ht⟩ := hs ▸ strtol_suffix longMax s
  have happend := strtol_append longMax h t rest
  rw [ht] at happend
  refine ⟨t, ht.symm, ?_, (congrArg Prod.fst happend).symm⟩
  have hrest := congrArg Prod.snd happend
  rw [hs] at hrest
  exact List.self_eq_append_left.mp hrest

theorem isDigit_breaks_not {c : Char} (h : c.isDigit = true) : isBlank c = false ∧ c ≠ '-' ∧ c ≠ '+' := by
  refine ⟨?_, ?_, ?_⟩
  · rw [Char.isDigit, Bool.and_eq_true, decide_eq_true_eq, decide_eq_true_eq] at h
    have hlow : '0' ≤ c := h.1
    rw [isBlank, Bool.or_eq_false_iff]
    constructor
    · apply decide_eq_false
      rintro rfl
      exact absurd hlow (by decide)
    · rw [Bool.and_eq_false_iff]
      right
      apply decide_eq_false
      intro hle
      exact absurd (Char.le_trans hlow hle) (by decide)
  · rintro rfl
    cases h
  · rintro rfl
    cases h

theorem takeWhile_toDigits (n : Nat) : (Nat.toDigits 10 n).takeWhile Char.isDigit = Nat.toDigits 10 n := by
  rw [List.takeWhile_eq_self_iff]
  intro c hc
  exact Nat.isDigit_of_mem_toDigits (by decide) (by decide) hc

theorem dropWhile_toDigits (n : Nat) : (Nat.toDigits 10 n).dropWhile Char.isDigit = [] := by
  rw [List.dropWhile_eq_nil_iff]
  intro c hc
  exact Nat.isDigit_of_mem_toDigits (by decide) (by decide) hc

theorem render_nat (n : Nat) : render n = Nat.toDigits 10 n := by
  rw [render]
  simp [Int.repr]

theorem render_negSucc (n : Nat) : render (Int.negSucc n) = '-' :: Nat.toDigits 10 (n + 1) := by
  rw [render]
  simp [Int.repr]

theorem takeSign_toDigits (n : Nat) :
    (Nat.toDigits 10 n).dropWhile isBlank = Nat.toDigits 10 n ∧
      takeSign (Nat.toDigits 10 n) = (false, Nat.toDigits 10 n) := by
  cases hd : Nat.toDigits 10 n with
  | nil => exact absurd hd Nat.toDigits_ne_nil
  | cons c cs =>
    have hc : c.isDigit = true :=
      Nat.isDigit_of_mem_toDigits (by decide) (by decide) (hd ▸ List.mem_cons_self ..)
    obtain ⟨hblank, hminus, hplus⟩ := isDigit_breaks_not hc
    exact ⟨List.dropWhile_cons_of_neg (by simp [hblank]), takeSign_of_ne hminus hplus cs⟩

theorem number_render (n : Int) : number (render n) = some (n, []) := by
  cases n with
  | ofNat n =>
    obtain ⟨hblank, hsign⟩ := takeSign_toDigits n
    rw [Int.ofNat_eq_natCast, render_nat, number, hblank, hsign]
    dsimp only
    rw [takeWhile_toDigits, dropWhile_toDigits, if_neg Nat.toDigits_ne_nil, Nat.ofDigitChars_ten_toDigits]
    rfl
  | negSucc n =>
    rw [render_negSucc, number, List.dropWhile_cons_of_neg (by decide), takeSign]
    dsimp only
    rw [takeWhile_toDigits, dropWhile_toDigits, if_neg Nat.toDigits_ne_nil, Nat.ofDigitChars_ten_toDigits]
    rfl

theorem mem_render (h : c ∈ render n) : c = '-' ∨ c.isDigit = true := by
  cases n with
  | ofNat n =>
    rw [Int.ofNat_eq_natCast, render_nat] at h
    exact Or.inr (Nat.isDigit_of_mem_toDigits (by decide) (by decide) h)
  | negSucc n =>
    rw [render_negSucc] at h
    rcases List.mem_cons.mp h with h | h
    · exact Or.inl h
    · exact Or.inr (Nat.isDigit_of_mem_toDigits (by decide) (by decide) h)

theorem Breaks.not_mem_render (h : Breaks c) (n : Int) : c ∉ render n := by
  intro hmem
  rcases mem_render hmem with hminus | hdigit
  · exact h.minus hminus
  · rw [h.digit] at hdigit
    cases hdigit

theorem render_length {k : Nat} (hk : 0 < k) (hn : n.natAbs < 10 ^ k) : (render n).length ≤ k + 1 := by
  cases n with
  | ofNat n =>
    rw [Int.ofNat_eq_natCast, render_nat]
    have hlen := (Nat.length_toDigits_le_iff (b := 10) (n := n) (by decide) hk).mpr hn
    omega
  | negSucc n =>
    rw [render_negSucc, List.length_cons]
    have hlen := (Nat.length_toDigits_le_iff (b := 10) (n := n + 1) (by decide) hk).mpr hn
    omega

end Decimal
