import Wt88047.Gps.LocCfg

/-! The functions on strings that the reading of configuration parameters uses. They work in the array that holds the
string. -/

namespace Wt88047.MiscUtils

open LocCfg

structure CharArray where
  chars : Text
  terminated : '\x00' ∈ chars

def CharArray.text (a : CharArray) : Text := cString a.chars

theorem exists_append_nul {s : Text} (h : '\x00' ∈ s) : ∃ rest, s = cString s ++ '\x00' :: rest := by
  induction s with
  | nil => cases h
  | cons c s ih =>
    by_cases hc : c = '\x00'
    · exact ⟨s, by simp [cString, hc]⟩
    · obtain ⟨rest, hrest⟩ := ih ((List.mem_cons.mp h).resolve_left (Ne.symm hc))
      refine ⟨rest, ?_⟩
      rw [cString, List.takeWhile_cons_of_pos (by simpa using hc), List.cons_append]
      exact congrArg (c :: ·) hrest

theorem nul_not_mem_cString (s : Text) : '\x00' ∉ cString s := fun h => by
  have hne := List.mem_takeWhile_imp h
  simp at hne

theorem cString_append_nul {s : Text} (h : '\x00' ∉ s) (rest : Text) : cString (s ++ '\x00' :: rest) = s := by
  induction s with
  | nil => rfl
  | cons c s ih =>
    rw [List.mem_cons, not_or] at h
    rw [List.cons_append, cString, List.takeWhile_cons_of_pos (by simpa using Ne.symm h.1)]
    exact congrArg (c :: ·) (ih h.2)

structure Trim where
  orgString : Text
  scan : Nat
  write : Nat
  firstNonspace : Option Nat
  lastNonspace : Option Nat

def Trim.pass (t : Trim) (c : Char) : Trim :=
  let first := if !isSpace c && t.firstNonspace.isNone then some t.scan else t.firstNonspace
  if first.isSome then
    { orgString := t.orgString.set t.write c
      scan := t.scan + 1
      write := t.write + 1
      firstNonspace := first
      lastNonspace := if isSpace c then t.lastNonspace else some (t.write + 1) }
  else { t with scan := t.scan + 1 }

def trimLoop : Nat → Trim → Option Trim
  | 0, _ => none
  | n + 1, t =>
    match t.orgString[t.scan]? with
    | none => none
    | some c => if c = '\x00' then some t else trimLoop n (t.pass c)

def utilTrimSpace (orgString : Text) : Option Text :=
  (trimLoop orgString.length ⟨orgString, 0, 0, none, none⟩).map fun t =>
    match t.lastNonspace with
    | some last => t.orgString.set last '\x00'
    | none => t.orgString

theorem pass_copies (s : Text) (scan write first : Nat) (last : Option Nat) (c : Char) :
    Trim.pass ⟨s, scan, write, some first, last⟩ c =
      ⟨s.set write c, scan + 1, write + 1, some first, if isSpace c then last else some (write + 1)⟩ := by
  simp [Trim.pass]

theorem trimLoop_copies {out gap todo rest : Text} {first n : Nat} (htodo : '\x00' ∉ todo) (hn : todo.length < n) :
    ∃ gap' scan, trimLoop n ⟨out ++ gap ++ todo ++ '\x00' :: rest, (out ++ gap).length, out.length, some first,
          some (out.rdropWhile isSpace).length⟩ =
        some ⟨out ++ todo ++ gap' ++ '\x00' :: rest, scan, (out ++ todo).length, some first,
          some ((out ++ todo).rdropWhile isSpace).length⟩ ∧ gap'.length = gap.length := by
  induction todo generalizing out gap n with
  | nil =>
    obtain ⟨n, rfl⟩ := Nat.exists_eq_add_of_lt hn
    refine ⟨gap, (out ++ gap).length, ?_, rfl⟩
    rw [trimLoop]
    simp
  | cons c todo ih =>
    rw [List.mem_cons, not_or] at htodo
    obtain ⟨n, rfl⟩ : ∃ m, n = m + 1 := ⟨n - 1, by omega⟩
    obtain ⟨gap', hgap', hset⟩ : ∃ gap', gap'.length = gap.length ∧
        (out ++ gap ++ c :: todo ++ '\x00' :: rest).set out.length c =
          (out ++ [c]) ++ gap' ++ todo ++ '\x00' :: rest := by
      cases gap with
      | nil => exact ⟨[], rfl, by simp⟩
      | cons g gap => exact ⟨gap ++ [c], by simp, by simp⟩
    have hget : (out ++ gap ++ c :: todo ++ '\x00' :: rest)[(out ++ gap).length]? = some c := by simp
    have hlast : (if isSpace c then some (out.rdropWhile isSpace).length else some (out.length + 1)) =
        some ((out ++ [c]).rdropWhile isSpace).length := by
      by_cases hc : isSpace c = true
      · rw [if_pos hc, List.rdropWhile_concat_pos _ _ _ hc]
      · rw [if_neg hc, List.rdropWhile_concat_neg _ _ _ hc, List.length_append, List.length_singleton]
    obtain ⟨gap'', scan, hloop, hlength⟩ := @ih (out ++ [c]) gap' n htodo.2 (by simpa using hn)
    refine ⟨gap'', scan, ?_, hlength.trans hgap'⟩
    rw [trimLoop, hget]
    dsimp only
    rw [if_neg (Ne.symm htodo.1), pass_copies, hset, hlast]
    simpa [Nat.add_assoc, hgap'] using hloop

theorem trimLoop_skips {blank todo rest : Text} {n : Nat} (hblank : ∀ c ∈ blank, isSpace c = true)
    (htodo : '\x00' ∉ todo) (hn : todo.length < n) :
    ∃ t, trimLoop n ⟨blank ++ todo ++ '\x00' :: rest, blank.length, 0, none, none⟩ = some t ∧
      ((∀ c ∈ todo, isSpace c = true) ∧ t.lastNonspace = none ∧ t.orgString = blank ++ todo ++ '\x00' :: rest ∨
        ∃ gap, t.lastNonspace = some ((todo.dropWhile isSpace).rdropWhile isSpace).length ∧
          t.orgString = todo.dropWhile isSpace ++ gap ++ '\x00' :: rest ∧
          gap.length + (todo.dropWhile isSpace).length = blank.length + todo.length ∧
          ∃ c ∈ todo, isSpace c = false) := by
  induction todo generalizing blank n with
  | nil =>
    obtain ⟨n, rfl⟩ : ∃ m, n = m + 1 := ⟨n - 1, by omega⟩
    refine ⟨⟨blank ++ [] ++ '\x00' :: rest, blank.length, 0, none, none⟩, ?_, .inl ⟨by simp, rfl, rfl⟩⟩
    rw [trimLoop]
    simp
  | cons c todo ih =>
    rw [List.mem_cons, not_or] at htodo
    obtain ⟨n, rfl⟩ : ∃ m, n = m + 1 := ⟨n - 1, by omega⟩
    have hget : (blank ++ c :: todo ++ '\x00' :: rest)[blank.length]? = some c := by simp
    rw [trimLoop, hget]
    dsimp only
    rw [if_neg (Ne.symm htodo.1)]
    cases hc : isSpace c with
    | true =>
      obtain ⟨t, hloop, hends⟩ := @ih (blank ++ [c]) n
        (fun d hd => (List.mem_append.mp hd).elim (hblank d) fun hd => by rw [List.mem_singleton.mp hd, hc])
        htodo.2 (by simpa using hn)
      have hpass : Trim.pass ⟨blank ++ c :: todo ++ '\x00' :: rest, blank.length, 0, none, none⟩ c =
          ⟨blank ++ [c] ++ todo ++ '\x00' :: rest, (blank ++ [c]).length, 0, none, none⟩ := by
        simp [Trim.pass, hc]
      refine ⟨t, by rw [hpass, hloop], ?_⟩
      rw [List.dropWhile_cons_of_pos hc]
      rcases hends with ⟨hall, hlast, hstring⟩ | ⟨gap, hlast, hstring, hlength, d, hd, hspace⟩
      · exact .inl ⟨List.forall_mem_cons.mpr ⟨hc, hall⟩, hlast, by simpa using hstring⟩
      · refine .inr ⟨gap, hlast, hstring, ?_, d, List.mem_cons_of_mem c hd, hspace⟩
        rw [hlength]
        simp
        omega
    | false =>
      obtain ⟨gap, hgap, hset⟩ : ∃ gap, gap.length = blank.length ∧
          (blank ++ c :: todo ++ '\x00' :: rest).set 0 c = [c] ++ gap ++ todo ++ '\x00' :: rest := by
        cases blank with
        | nil => exact ⟨[], rfl, rfl⟩
        | cons b blank => exact ⟨blank ++ [c], by simp, by simp⟩
      have hpass : Trim.pass ⟨blank ++ c :: todo ++ '\x00' :: rest, blank.length, 0, none, none⟩ c =
          ⟨[c] ++ gap ++ todo ++ '\x00' :: rest, ([c] ++ gap).length, [c].length, some blank.length,
            some ([c].rdropWhile isSpace).length⟩ := by
        rw [← hset]
        simp [Trim.pass, hc, hgap, List.rdropWhile_singleton]
      obtain ⟨gap', scan, hloop, hlength⟩ :=
        @trimLoop_copies [c] gap todo rest blank.length n htodo.2 (by simpa using hn)
      refine ⟨_, by rw [hpass, hloop], .inr ⟨gap', ?_, ?_, ?_, c, List.mem_cons_self, hc⟩⟩
      · rw [List.dropWhile_cons_of_neg (by simp [hc])]
        rfl
      · rw [List.dropWhile_cons_of_neg (by simp [hc])]
        rfl
      · rw [List.dropWhile_cons_of_neg (by simp [hc]), hlength, hgap]

theorem set_nul {u v rest : Text} (hu : '\x00' ∉ u) :
    ∃ v', (u ++ v ++ '\x00' :: rest).set u.length '\x00' = u ++ v' ++ '\x00' :: rest ∧ v'.length = v.length ∧
      cString (u ++ v' ++ '\x00' :: rest) = u := by
  cases v with
  | nil => exact ⟨[], by simp, rfl, by rw [List.append_nil, cString_append_nul hu]⟩
  | cons c v =>
    refine ⟨'\x00' :: v, by simp, rfl, ?_⟩
    rw [List.append_assoc, List.cons_append, cString_append_nul hu]

theorem utilTrimSpace_eq (a : CharArray) :
    ∃ s, utilTrimSpace a.chars = some s ∧ cString s = trimSpace a.text ∧ s.length = a.chars.length ∧
      s.drop a.text.length = a.chars.drop a.text.length := by
  obtain ⟨rest, hrest⟩ := exists_append_nul a.terminated
  have hnul := nul_not_mem_cString a.chars
  have hchars : a.chars = a.text ++ '\x00' :: rest := hrest
  change '\x00' ∉ a.text at hnul
  have hn : a.text.length < a.chars.length := by
    rw [hchars]
    simp
  obtain ⟨t, hloop, hends⟩ := @trimLoop_skips [] a.text rest a.chars.length (by simp) hnul hn
  rw [List.nil_append, ← hchars, List.length_nil] at hloop
  have hrun : utilTrimSpace a.chars = some (match t.lastNonspace with
      | some last => t.orgString.set last '\x00'
      | none => t.orgString) := by
    rw [utilTrimSpace, hloop, Option.map_some]
  rcases hends with ⟨hall, hlast, hstring⟩ | ⟨gap, hlast, hstring, hlength, c, hc, hspace⟩
  · refine ⟨a.chars, ?_, ?_, rfl, rfl⟩
    · rw [hrun, hlast, hchars]
      exact congrArg some hstring
    · rw [trimSpace, List.dropWhile_eq_nil_iff.mpr hall]
      rfl
  · have hne : a.text.dropWhile isSpace ≠ [] := fun h => by
      rw [List.dropWhile_eq_nil_iff] at h
      exact Bool.false_ne_true (hspace.symm.trans (h c hc))
    have htrim : trimSpace a.text = (a.text.dropWhile isSpace).rdropWhile isSpace := by
      obtain ⟨d, u, hu⟩ := List.exists_cons_of_ne_nil hne
      rw [trimSpace, hu]
    obtain ⟨v, hv⟩ := List.rdropWhile_prefix isSpace (a.text.dropWhile isSpace)
    rw [← htrim] at hv hlast
    have hfree : '\x00' ∉ trimSpace a.text := fun h =>
      hnul ((List.dropWhile_sublist isSpace).subset (hv ▸ List.mem_append_left v h))
    obtain ⟨v', hset, hlength', hstring'⟩ := @set_nul (trimSpace a.text) (v ++ gap) rest hfree
    have htext : (trimSpace a.text ++ v').length = a.text.length := by
      rw [List.length_append, hlength', ← List.length_append, ← List.append_assoc, hv, List.length_append]
      simpa [Nat.add_comm] using hlength
    refine ⟨_, ?_, hstring', ?_, ?_⟩
    · rw [hrun, hlast, hstring, ← hv]
      dsimp only
      rw [← hset, List.append_assoc (trimSpace a.text) v gap]
    · rw [hchars, List.length_append, htext, List.length_append]
    · rw [← htext, List.drop_left, htext, hchars, List.drop_left]

theorem trimSpace_eq_iff (s : Text) :
    trimSpace s = (s.dropWhile isSpace).rdropWhile isSpace ↔ s = [] ∨ ∃ c ∈ s, isSpace c = false := by
  unfold trimSpace
  cases hs : s.dropWhile isSpace with
  | nil =>
    rw [List.dropWhile_eq_nil_iff] at hs
    rw [List.rdropWhile_nil]
    refine ⟨.inl, fun h => h.resolve_right ?_⟩
    rintro ⟨c, hc, hspace⟩
    exact Bool.false_ne_true (hspace.symm.trans (hs c hc))
  | cons c u =>
    refine ⟨fun _ => .inr ?_, fun _ => rfl⟩
    have hfirst := List.head?_dropWhile_not isSpace s
    rw [hs] at hfirst
    exact ⟨c, (List.dropWhile_sublist isSpace).subset (hs ▸ List.mem_cons_self), hfirst⟩

structure Split where
  rawString : Text
  numSplitStrings : Nat
  splitStringsPtr : List Nat

def splitLoop (rawStringLength : Nat) (maxNumSubstrings : Int) (delimiter : Char) : Nat → Nat → Split → Option Split
  | 0, _, s => some s
  | n + 1, index, s =>
    match s.rawString[index]? with
    | none => none
    | some c =>
      if c = delimiter ∨ c = '\x00' then
        let num := s.numSplitStrings + 1
        let raw := s.rawString.set index '\x00'
        if index + 1 < rawStringLength ∧ (num : Int) < maxNumSubstrings then
          let s : Split := ⟨raw, num, s.splitStringsPtr ++ [index + 1]⟩
          if c = '\x00' then some s else splitLoop rawStringLength maxNumSubstrings delimiter n (index + 1) s
        else some ⟨raw, num, s.splitStringsPtr⟩
      else splitLoop rawStringLength maxNumSubstrings delimiter n (index + 1) s

/-- `max_num_substrings` is not looked at before the first pointer is set. -/
def utilSplitString (rawString : Text) (maxNumSubstrings : Int) (delimiter : Char) : Option Split :=
  let rawStringLength := (cString rawString).length + 1
  splitLoop rawStringLength maxNumSubstrings delimiter rawStringLength 0 ⟨rawString, 0, [0]⟩

def Split.substrings (s : Split) : List Text := s.splitStringsPtr.map fun p => cString (s.rawString.drop p)

/-- `pieces` is the beginning of the text, in as many fields as are asked for. -/
structure Fields (delimiter : Char) (max : Int) (text : Text) (pieces : List Text) : Prop where
  count : (pieces.length : Int) = min ((text.count delimiter : Int) + 1) max
  apart : ∀ p ∈ pieces, delimiter ∉ p
  joined : ∃ rest, text = [delimiter].intercalate pieces ++ rest ∧ (rest = [] ∨ rest.head? = some delimiter)

theorem fields_last {delimiter : Char} {max : Int} {cur : Text} (hcur : delimiter ∉ cur) (hmax : 1 ≤ max) :
    Fields delimiter max cur [cur] where
  count := by
    rw [List.count_eq_zero_of_not_mem hcur, List.length_singleton]
    omega
  apart p hp := List.mem_singleton.mp hp ▸ hcur
  joined := ⟨[], by simp, .inl rfl⟩

theorem fields_first {delimiter : Char} {cur : Text} (hcur : delimiter ∉ cur) (text : Text) :
    Fields delimiter 1 (cur ++ delimiter :: text) [cur] where
  count := by
    rw [List.length_singleton]
    omega
  apart p hp := List.mem_singleton.mp hp ▸ hcur
  joined := ⟨delimiter :: text, by simp, .inr rfl⟩

theorem Fields.cons {delimiter : Char} {max : Int} {text cur piece : Text} {pieces : List Text}
    (h : Fields delimiter (max - 1) text (piece :: pieces)) (hcur : delimiter ∉ cur) :
    Fields delimiter max (cur ++ delimiter :: text) (cur :: piece :: pieces) where
  count := by
    have hcount := h.count
    rw [List.count_append, List.count_eq_zero_of_not_mem hcur, List.count_cons_self, List.length_cons]
    omega
  apart := List.forall_mem_cons.mpr ⟨hcur, h.apart⟩
  joined := by
    obtain ⟨rest, htext, hrest⟩ := h.joined
    refine ⟨rest, ?_, hrest⟩
    rw [List.intercalate_cons_cons, htext]
    simp

theorem splitLoop_eq {delimiter : Char} {max : Int} {base cur todo rest : Text} {length index num : Nat}
    {ptrs : List Nat} (hindex : index = (base ++ cur).length) (hlength : length = index + todo.length + 1)
    (hcur : delimiter ∉ cur) (hnul : '\x00' ∉ cur ++ todo) (hmax : num + 1 ≤ max) :
    ∃ new tail, splitLoop length max delimiter (todo.length + 1) index
          ⟨base ++ cur ++ todo ++ '\x00' :: rest, num, ptrs⟩ =
        some ⟨base ++ tail, num + (new.length + 1), ptrs ++ new⟩ ∧
      Fields delimiter (max - num) (cur ++ todo)
        ((base.length :: new).map fun p => cString ((base ++ tail).drop p)) := by
  induction todo generalizing base cur index num ptrs with
  | nil =>
    have hget : (base ++ cur ++ [] ++ '\x00' :: rest)[index]? = some '\x00' := by simp [hindex]
    have hset : (base ++ cur ++ [] ++ '\x00' :: rest).set index '\x00' = base ++ (cur ++ '\x00' :: rest) := by
      simp [hindex]
    rw [List.append_nil] at hnul
    refine ⟨[], cur ++ '\x00' :: rest, ?_, ?_⟩
    · rw [splitLoop, hget]
      dsimp only
      rw [if_pos (.inr rfl), if_neg fun h => absurd h.1 (by rw [hlength]; simp), hset, List.append_nil]
      rfl
    · rw [List.map_singleton, List.drop_left, cString_append_nul hnul, List.append_nil]
      exact fields_last hcur (by omega)
  | cons c todo ih =>
    have hget : (base ++ cur ++ c :: todo ++ '\x00' :: rest)[index]? = some c := by
      rw [hindex, List.append_assoc (base ++ cur)]
      simp
    have hc : c ≠ '\x00' := fun h => hnul (by simp [h])
    have hcurNul : '\x00' ∉ cur := fun h => hnul (List.mem_append_left _ h)
    rw [List.length_cons] at hlength
    rw [List.length_cons, splitLoop, hget]
    dsimp only
    by_cases hd : c = delimiter
    · have hset : (base ++ cur ++ c :: todo ++ '\x00' :: rest).set index '\x00' =
          base ++ cur ++ ['\x00'] ++ [] ++ todo ++ '\x00' :: rest := by
        rw [hindex, List.append_assoc (base ++ cur)]
        simp
      rw [if_pos (.inl hd), hset, hd]
      by_cases hmore : ((num + 1 : Nat) : Int) < max
      · rw [if_pos ⟨by omega, hmore⟩, if_neg (hd ▸ hc)]
        have hbase : (base ++ cur ++ ['\x00']).length = index + 1 := by simp [hindex, Nat.add_assoc]
        obtain ⟨new, tail, hloop, hfields⟩ := @ih (base ++ cur ++ ['\x00']) [] (index + 1) (num + 1)
          (ptrs ++ [index + 1]) (by rw [List.append_nil, hbase]) (by omega) List.not_mem_nil
          (fun h => hnul (List.mem_append_right _ (List.mem_cons_of_mem _ h))) (by omega)
        have hassoc : base ++ cur ++ ['\x00'] ++ tail = base ++ (cur ++ '\x00' :: tail) := by simp
        refine ⟨(index + 1) :: new, cur ++ '\x00' :: tail, ?_, ?_⟩
        · rw [hloop, hassoc, List.append_assoc ptrs, List.singleton_append, List.length_cons, Nat.add_assoc num,
            Nat.add_comm 1]
        · rw [List.map_cons, List.drop_left, cString_append_nul hcurNul, ← hassoc, ← hbase, List.map_cons]
          refine Fields.cons ?_ hcur
          rw [List.nil_append, List.map_cons, Int.natCast_add, ← Int.sub_sub] at hfields
          exact hfields
      · rw [if_neg fun h => hmore h.2]
        refine ⟨[], cur ++ '\x00' :: (todo ++ '\x00' :: rest), by simp, ?_⟩
        rw [List.map_singleton, List.drop_left, cString_append_nul hcurNul, show max - num = 1 by omega]
        exact fields_first hcur todo
    · rw [if_neg (not_or.mpr ⟨hd, hc⟩)]
      have hassoc : base ++ (cur ++ [c]) ++ todo = base ++ cur ++ c :: todo := by simp
      obtain ⟨new, tail, hloop, hfields⟩ := @ih base (cur ++ [c]) (index + 1) num ptrs
        (by rw [hindex, ← List.append_assoc, @List.length_append _ _ [c]]; rfl) (by omega)
        (by simp [hcur, Ne.symm hd]) (by simpa using hnul) hmax
      rw [hassoc] at hloop
      refine ⟨new, tail, hloop, ?_⟩
      rw [List.append_assoc] at hfields
      exact hfields

theorem splitLoop_of_le_one {length n index : Nat} {max : Int} {delimiter : Char} {s : Split} (hmax : max ≤ 1) :
    splitLoop length max delimiter n index s = splitLoop length 1 delimiter n index s := by
  induction n generalizing index s with
  | zero => rfl
  | succ n ih =>
    rw [splitLoop, splitLoop]
    cases s.rawString[index]? with
    | none => rfl
    | some c =>
      dsimp only
      rw [if_neg (c := index + 1 < length ∧ ((s.numSplitStrings + 1 : Nat) : Int) < max) (by omega),
        if_neg (c := index + 1 < length ∧ ((s.numSplitStrings + 1 : Nat) : Int) < 1) (by omega), ih]

theorem utilSplitString_eq (a : CharArray) (max : Int) (delimiter : Char) :
    ∃ s, utilSplitString a.chars max delimiter = some s ∧ s.numSplitStrings = s.splitStringsPtr.length ∧
      Fields delimiter (if max ≤ 1 then 1 else max) a.text s.substrings := by
  obtain ⟨rest, hrest⟩ := exists_append_nul a.terminated
  have hchars : a.chars = a.text ++ '\x00' :: rest := hrest
  obtain ⟨new, tail, hloop, hfields⟩ := @splitLoop_eq delimiter (if max ≤ 1 then 1 else max) [] [] a.text rest
    (a.text.length + 1) 0 0 [0] rfl (by simp) List.not_mem_nil (nul_not_mem_cString a.chars) (by split <;> omega)
  rw [List.nil_append, List.nil_append, ← hchars] at hloop
  refine ⟨⟨tail, new.length + 1, 0 :: new⟩, ?_, ?_, ?_⟩
  · have hrun : utilSplitString a.chars max delimiter =
        splitLoop (a.text.length + 1) max delimiter (a.text.length + 1) 0 ⟨a.chars, 0, [0]⟩ := rfl
    rw [hrun]
    by_cases hmax : max ≤ 1
    · rw [if_pos hmax] at hloop
      rw [splitLoop_of_le_one hmax, hloop]
      simp
    · rw [if_neg hmax] at hloop
      rw [hloop]
      simp
  · rfl
  · simpa [Split.substrings] using hfields

/-- Trimming gives the string without its blanks except when there is nothing else in it, and splitting gives the
fields except when none is asked for. -/
theorem trimmed_and_split (a : CharArray) (max : Int) (delimiter : Char) :
    ((∃ s, utilTrimSpace a.chars = some s ∧ s.length = a.chars.length ∧
        s.drop a.text.length = a.chars.drop a.text.length ∧
        cString s = (a.text.dropWhile isSpace).rdropWhile isSpace) ↔
      a.text = [] ∨ ∃ c ∈ a.text, isSpace c = false) ∧
    ((∃ s, utilSplitString a.chars max delimiter = some s ∧ s.numSplitStrings = s.splitStringsPtr.length ∧
        Fields delimiter max a.text s.substrings) ↔ 1 ≤ max) := by
  constructor
  · obtain ⟨s, hrun, hstring, hlength, hdrop⟩ := utilTrimSpace_eq a
    rw [← trimSpace_eq_iff, ← hstring]
    refine ⟨fun h => ?_, fun h => ⟨s, hrun, hlength, hdrop, h⟩⟩
    obtain ⟨s', hrun', -, -, h⟩ := h
    obtain rfl : s = s' := Option.some.inj (hrun.symm.trans hrun')
    exact h
  · obtain ⟨s, hrun, hnum, hfields⟩ := utilSplitString_eq a max delimiter
    refine ⟨fun h => ?_, fun h => ⟨s, hrun, hnum, ?_⟩⟩
    · obtain ⟨s', hrun', -, hfields'⟩ := h
      obtain rfl : s = s' := Option.some.inj (hrun.symm.trans hrun')
      have hcount := hfields.count
      have hcount' := hfields'.count
      by_contra hmax
      rw [if_pos (by omega)] at hcount
      omega
    · by_cases hmax : max ≤ 1
      · obtain rfl : max = 1 := by omega
        exact hfields
      · rwa [if_neg hmax] at hfields

/-- Two blanks. -/
theorem blank_string_not_trimmed :
    (utilTrimSpace [' ', ' ', '\x00']).map cString = some [' ', ' '] ∧
      (([' ', ' '] : Text).dropWhile isSpace).rdropWhile isSpace = [] ∧
      (utilSplitString ['a', '\x00'] 0 ',').map Split.numSplitStrings = some 1 := ⟨rfl, rfl, rfl⟩

end Wt88047.MiscUtils
