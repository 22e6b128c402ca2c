import Rover.Proofs.BranchText
import Rover.Proofs.Counts

namespace Rover

open Text

namespace Numeral

def places (n : Nat) : List Nat :=
  if n < 10 then [n] else places (n / 10) ++ [n % 10]
termination_by n

private theorem digitValue?_digitChar :
    ∀ d < 10, digitValue? (digitChar d) = some d := by
  decide

private theorem writeNat_eq (n : Nat) :
    writeNat n = (places n).map digitChar := by
  induction n using Nat.strongRecOn with
  | _ n ih =>
    rw [writeNat, places]
    split
    · rfl
    · rw [ih (n / 10) (by omega), List.map_append, List.map_singleton]

private theorem places_lt (n : Nat) : ∀ d ∈ places n, d < 10 := by
  induction n using Nat.strongRecOn with
  | _ n ih =>
    rw [places]
    split
    · simpa
    · intro d hd
      rcases List.mem_append.1 hd with hd | hd
      · exact ih (n / 10) (by omega) d hd
      · rw [List.mem_singleton.1 hd]
        omega

private theorem ofDigits_places (n : Nat) : ofDigits (places n) = n := by
  induction n using Nat.strongRecOn with
  | _ n ih =>
    rw [places]
    split
    · simp [ofDigits]
    · have hhigh : ofDigits (places (n / 10)) = n / 10 := ih (n / 10) (by omega)
      rw [ofDigits, List.foldl_append, ← ofDigits, hhigh]
      simp only [List.foldl_cons, List.foldl_nil]
      omega

private theorem length_places_le {n k : Nat} (hk : 0 < k)
    (hn : n < Nat.pow 10 k) :
    (places n).length ≤ k := by
  induction k generalizing n with
  | zero => cases hk
  | succ k ih =>
    rw [places]
    split
    · simp
    · have hhigh : n / 10 < Nat.pow 10 k := Nat.div_lt_of_lt_mul (by
        rw [Nat.mul_comm]
        exact hn)
      have hpos : 0 < k := by
        apply Nat.pos_of_ne_zero
        rintro rfl
        have : n / 10 < 1 := hhigh
        omega
      have := ih hpos hhigh
      rw [List.length_append, List.length_singleton]
      omega

private theorem places_ne_nil (n : Nat) : places n ≠ [] := by
  rw [places]
  split <;> simp

private theorem isDigit_of_mem_writeNat {n : Nat} {c : Char}
    (hc : c ∈ writeNat n) : isDigit c = true := by
  rw [writeNat_eq] at hc
  obtain ⟨d, hd, rfl⟩ := List.mem_map.1 hc
  rw [isDigit, digitValue?_digitChar d (places_lt n d hd)]
  rfl

private theorem writeNat_ne_nil (n : Nat) : writeNat n ≠ [] := by
  rw [writeNat_eq]
  simpa using places_ne_nil n

private theorem moreDigits_digitChar {ds : List Nat} (h : ∀ d ∈ ds, d < 10) :
    moreDigits (ds.map digitChar) = some (ds, []) := by
  induction ds with
  | nil => rfl
  | cons d ds ih =>
    have hd := digitValue?_digitChar d (h d (List.mem_cons_self ..))
    have hdigit : isDigit (digitChar d) = true := by rw [isDigit, hd]; rfl
    have hunderscore := (ne_of_isDigit hdigit).2.2
    rw [List.map_cons, moreDigits.eq_4 _ _ (by simp_all) (by simp_all), hd,
      ih fun d hd => h d (List.mem_cons_of_mem _ hd)]
    rfl

theorem read_writeNat {n : Nat} (h : isShowable n = true) :
    read (writeNat n) = .ok (n : Int) := by
  unfold isShowable ceiling at h
  have hlength : (places n).length ≤ maxDigits :=
    length_places_le (by decide) (of_decide_eq_true h)
  have hvalue := ofDigits_places n
  have hplaces := places_lt n
  rw [writeNat_eq]
  cases hds : places n with
  | nil => exact absurd hds (places_ne_nil n)
  | cons d ds =>
    rw [hds] at hlength hvalue hplaces
    have hd := digitValue?_digitChar d (hplaces d (List.mem_cons_self ..))
    have hdigit : isDigit (digitChar d) = true := by rw [isDigit, hd]; rfl
    have hmore :=
      moreDigits_digitChar fun d hd => hplaces d (List.mem_cons_of_mem _ hd)
    have hdigits : digits (digitChar d :: ds.map digitChar) =
        some (d :: ds, []) := by
      rw [digits, hd, hmore]
      rfl
    rw [List.map_cons, read_of_digits hdigit hdigits,
      if_neg (Nat.not_lt.2 hlength), hvalue]

end Numeral

namespace Text

section Trim

variable {cs rest : List Char}

private theorem skipBlanks_of_trim (h : trim cs = cs) : skipBlanks cs = cs := by
  have hlength : (skipBlanks cs).length = cs.length := by
    have htrim := congrArg List.length h
    have hend := length_skipBlanksEnd_le (skipBlanks cs)
    have hstart := length_skipBlanks_le cs
    rw [trim] at htrim
    omega
  exact (List.dropWhile_suffix _).eq_of_length hlength

private theorem skipBlanksEnd_of_trim (h : trim cs = cs) :
    skipBlanksEnd cs = cs := by
  rw [trim, skipBlanks_of_trim h] at h
  exact h

private theorem skipBlanks_append_of_eq (h : skipBlanks cs = cs)
    (hne : cs ≠ []) :
    skipBlanks (cs ++ rest) = cs ++ rest := by
  cases cs with
  | nil => exact absurd rfl hne
  | cons c cs =>
    have hc : isBlank c = false := by
      cases hblank : isBlank c with
      | false => rfl
      | true =>
        have hlength := congrArg List.length h
        have hle := length_skipBlanks_le cs
        rw [skipBlanks, List.dropWhile_cons_of_pos hblank, ← skipBlanks,
          List.length_cons] at hlength
        omega
    rw [List.cons_append, skipBlanks, List.dropWhile_cons_of_neg (by simp [hc])]

theorem skipBlanksEnd_append_of_eq (h : skipBlanksEnd cs = cs) (hne : cs ≠ []) :
    skipBlanksEnd (rest ++ cs) = rest ++ cs := by
  have hreverse : skipBlanks cs.reverse = cs.reverse := by
    rw [← List.reverse_inj, List.reverse_reverse]
    exact h
  rw [skipBlanksEnd, List.reverse_append,
    skipBlanks_append_of_eq hreverse (by simpa using hne), List.reverse_append,
    List.reverse_reverse, List.reverse_reverse]

theorem skipBlanksEnd_append_blank {c : Char} (hc : isBlank c = true) :
    skipBlanksEnd (cs ++ [c]) = skipBlanksEnd cs := by
  rw [skipBlanksEnd, List.reverse_append,
    List.reverse_singleton, List.singleton_append, skipBlanks,
    List.dropWhile_cons_of_pos hc, ← skipBlanks, ← skipBlanksEnd]

private theorem trim_cons_blank {c : Char} (hc : isBlank c = true) :
    trim (c :: cs) = trim cs := by
  rw [trim, trim, skipBlanks, List.dropWhile_cons_of_pos hc, ← skipBlanks]

end Trim

section Commas

variable {item rest : List Char}

private theorem splitCommas_append (h : ',' ∉ item) :
    splitCommas (item ++ ',' :: rest) = item :: splitCommas rest := by
  induction item with
  | nil => rfl
  | cons c item ih =>
    simp only [List.mem_cons, not_or] at h
    rw [List.cons_append, splitCommas, if_neg (Ne.symm h.1), ih h.2]

private theorem splitCommas_of_not_mem (h : ',' ∉ item) :
    splitCommas item = [item] := by
  induction item with
  | nil => rfl
  | cons c item ih =>
    simp only [List.mem_cons, not_or] at h
    rw [splitCommas, if_neg (Ne.symm h.1), ih h.2]

private theorem splitCommas_ne_nil (cs : List Char) : splitCommas cs ≠ [] := by
  cases cs with
  | nil => exact List.cons_ne_nil _ _
  | cons c cs =>
    rw [splitCommas]
    split
    · exact List.cons_ne_nil _ _
    · split <;> exact List.cons_ne_nil _ _

private theorem splitCommas_space (cs : List Char) :
    (splitCommas (' ' :: cs)).map trim = (splitCommas cs).map trim := by
  rw [splitCommas, if_neg (by decide)]
  cases hsplit : splitCommas cs with
  | nil => exact absurd hsplit (splitCommas_ne_nil cs)
  | cons w ws => rw [List.map_cons, List.map_cons, trim_cons_blank (by decide)]

end Commas

end Text

structure IsItem (item : String) : Prop where
  comma : ',' ∉ item.toList
  newline : '\n' ∉ item.toList
  trimmed : trim item.toList = item.toList

instance (item : String) : Decidable (IsItem item) :=
  decidable_of_iff
    (',' ∉ item.toList ∧ '\n' ∉ item.toList ∧ trim item.toList = item.toList)
    ⟨fun h => ⟨h.1, h.2.1, h.2.2⟩, fun h => ⟨h.comma, h.newline, h.trimmed⟩⟩

def loopText (count : Nat) (items : List String) : String :=
  "for " ++ Numeral.write count ++ " >> " ++ ", ".intercalate items

section Loops

variable {item : String} {items : List String} {n : Nat}

private theorem splitCommas_intercalate (hne : items ≠ [])
    (h : ∀ item ∈ items, IsItem item) :
    (splitCommas (", ".intercalate items).toList).map trim =
      items.map String.toList := by
  induction items with
  | nil => exact absurd rfl hne
  | cons item items ih =>
    have hitem := h item (List.mem_cons_self ..)
    cases items with
    | nil => simp [splitCommas_of_not_mem hitem.comma, hitem.trimmed]
    | cons next items =>
      have htext : (", ".intercalate (item :: next :: items)).toList =
          item.toList ++ ',' :: ' ' ::
          (", ".intercalate (next :: items)).toList := by
        simp
      rw [htext, splitCommas_append hitem.comma,
        List.map_cons, splitCommas_space, ih (List.cons_ne_nil _ _)
        fun item hmem => h item (List.mem_cons_of_mem _ hmem), hitem.trimmed]
      rfl

private theorem not_mem_intercalate (h : ∀ item ∈ items, IsItem item) :
    '\n' ∉ (", ".intercalate items).toList := by
  induction items with
  | nil => simp
  | cons item items ih =>
    have hitem := h item (List.mem_cons_self ..)
    have hrest := ih fun item hmem => h item (List.mem_cons_of_mem _ hmem)
    cases items with
    | nil => simpa using hitem.newline
    | cons next items =>
      rw [String.intercalate_cons_cons, String.toList_append,
        String.toList_append]
      simp only [List.mem_append, not_or]
      exact ⟨⟨hitem.newline, by decide⟩, hrest⟩

private theorem skipBlanks_intercalate (h : ∀ item ∈ items, IsItem item) :
    skipBlanks (", ".intercalate items).toList =
      (", ".intercalate items).toList := by
  cases items with
  | nil => rfl
  | cons item items =>
    have hitem := skipBlanks_of_trim (h item (List.mem_cons_self ..)).trimmed
    cases items with
    | nil => simpa using hitem
    | cons next items =>
      rw [String.intercalate_cons_cons, String.toList_append,
        String.toList_append, List.append_assoc]
      by_cases hne : item.toList = []
      · rw [hne]
        rfl
      · exact skipBlanks_append_of_eq hitem hne

private theorem loopBody?_space {body : List Char}
    (hblank : skipBlanks body = body) (hnewline : '\n' ∉ body) :
    loopBody? ([' '] ++ body) = some body := by
  have hskip : skipBlanks ([' '] ++ body) = body := by
    rw [skipBlanks_append allBlank_space, hblank]
  rw [loopBody?, hskip]
  cases body with
  | nil => rfl
  | cons c body =>
    have hline : ∀ d ∈ c :: body, (d != '\n') = true := by
      intro d hd
      rw [bne_iff_ne]
      rintro rfl
      exact hnewline hd
    have hwhole : ((c :: body) ++ []).takeWhile (· != '\n') = c :: body :=
      takeWhile_append_stop hline (by simp)
    rw [List.append_nil] at hwhole
    dsimp only
    rw [hwhole]

private theorem loopHere?_append {count rest : List Char} (hne : count ≠ [])
    (hdigits : ∀ c ∈ count, isDigit c = true) :
    loopHere?
      ("for".toList ++ ([' '] ++ (count ++ ([' '] ++ (">>".toList ++ rest))))) =
      (loopBody? rest).map fun body => ⟨count,
        (splitCommas body).map trim⟩ := by
  have hword : IsWord count :=
    ⟨hne, fun c hc => by simp [isVisible, isBlank_of_isDigit (hdigits c hc)]⟩
  have harrow : IsWord ">>".toList := by decide
  have hspace : ∀ c ∈ ([' '] ++ (">>".toList ++ rest)).head?,
      isDigit c = false := by
    rintro _ ⟨⟩
    decide
  have hfor : keyword? "for".toList
      ("for".toList ++ ([' '] ++ (count ++ ([' '] ++ (">>".toList ++ rest))))) =
      some ([' '] ++ (count ++ ([' '] ++ (">>".toList ++ rest)))) :=
    keyword?_eq_some_iff.2 rfl
  have hkey : keyword? ">>".toList (">>".toList ++ rest) = some rest :=
    keyword?_eq_some_iff.2 rfl
  have hguard : (guard (count ≠ []) : Option Unit) = some () := if_pos hne
  unfold loopHere?
  rw [hfor, Option.bind_eq_bind, Option.bind_some,
    blanks?_append allBlank_space (List.cons_ne_nil _ _), skipBlanks_word hword,
    Option.bind_eq_bind, Option.bind_some]
  dsimp only
  rw [takeWhile_append_stop hdigits hspace,
    dropWhile_append_stop hdigits hspace, skipBlanks_append allBlank_space,
    skipBlanks_word harrow, hkey, hguard]
  cases hbody : loopBody? rest with
  | none => simp [hbody]
  | some body => simp [hbody]

theorem items_pos_of_loopHere? {cs : List Char} {line : LoopLine}
    (h : loopHere? cs = some line) : 0 < line.items.length := by
  obtain ⟨-, -, -, body, -, -, -, -, -, rfl⟩ := loopHere?_eq_some h
  rw [List.length_map]
  exact List.length_pos_iff.2 (splitCommas_ne_nil body)

theorem isShowable_of_fits (hn : n < instructionSpace) :
    Numeral.isShowable n = true := by
  apply Numeral.isShowable_of_lt
  unfold instructionSpace at hn
  omega

private theorem toList_loopText (n : Nat) (items : List String) :
    (loopText n items).toList = "for".toList ++ ([' '] ++ (Numeral.writeNat n ++
      ([' '] ++
          (">>".toList ++ ([' '] ++ (", ".intercalate items).toList))))) := by
  delta loopText
  simp [Numeral.write]

theorem loopHere?_loopText (h : ∀ item ∈ items, IsItem item)
    (hne : items ≠ []) :
    loopHere? (loopText n items).toList =
      some ⟨Numeral.writeNat n, items.map String.toList⟩ := by
  rw [toList_loopText, loopHere?_append
    (Numeral.writeNat_ne_nil n) fun c hc => Numeral.isDigit_of_mem_writeNat hc,
    loopBody?_space (skipBlanks_intercalate h) (not_mem_intercalate h),
    Option.map_some, splitCommas_intercalate hne h]

namespace Instruction

theorem ofChars_for (rest : List Char) :
    ofChars ("for".toList ++ rest) =
      match loopHere? ("for".toList ++ rest) with
      | some line => ofLoop line.count (line.items.map ofChars)
      | none => .unknown := by
  have hbranch : branchLine? ("for".toList ++ rest) = none := rfl
  have hstart : skipBlanks ("for".toList ++ rest) = "for".toList ++ rest :=
    skipBlanks_word (by decide)
  have hcommand : Command.ofWord?
      (String.ofList ("for".toList ++ rest)) = none := by
    have hfirst : ∀ c ∈ Command.all, c.word.toList.head? ≠ some 'f' := by decide
    apply List.find?_eq_none.2
    intro c hc heq
    apply hfirst c hc
    rw [beq_iff_eq.1 heq, String.toList_ofList]
    rfl
  rw [ofChars_eq, hbranch]
  dsimp only
  rw [loopLine?, hstart]
  cases loopHere? ("for".toList ++ rest) with
  | some line => rfl
  | none => simp only [hcommand]

theorem ofLoop_writeNat (hn : n < instructionSpace) (body : List Instruction) :
    ofLoop (Numeral.writeNat n) body = .loop (.ok n) body := by
  rw [ofLoop, Numeral.readOrFault, String.toList_ofList,
    Numeral.read_writeNat (isShowable_of_fits hn)]

theorem parse_loopText (h : ∀ item ∈ items, IsItem item) (hne : items ≠ [])
    (hn : n < instructionSpace) :
    parse (loopText n items) = .loop (.ok n) (items.map parse) := by
  have hloop := loopHere?_loopText h hne (n := n)
  rw [toList_loopText] at hloop
  rw [parse, toList_loopText, ofChars_for, hloop]
  dsimp only
  rw [ofLoop_writeNat hn, List.map_map]
  rfl

end Instruction

theorem toList_loopText_singleton (n : Nat) (item : String) :
    (loopText n [item]).toList =
      "for".toList ++ ([' '] ++ (Numeral.writeNat n ++
      ([' '] ++ (">>".toList ++ ([' '] ++ item.toList))))) := by
  rw [toList_loopText, String.intercalate_singleton]

private theorem not_mem_loopText {c : Char} (hdigit : isDigit c = false)
    (hc : c ∉ "for >>".toList) (hitem : c ∉ item.toList) :
    c ∉ (loopText n [item]).toList := by
  have hcount : c ∉ Numeral.writeNat n := by
    intro hmem
    rw [Numeral.isDigit_of_mem_writeNat hmem] at hdigit
    cases hdigit
  rw [toList_loopText_singleton]
  simp_all

private theorem skipBlanks_loopText (n : Nat) (item : String) :
    skipBlanks (loopText n [item]).toList = (loopText n [item]).toList := by
  rw [toList_loopText_singleton]
  exact skipBlanks_word (by decide)

/-- A loop can be an item in turn, unless its own item is empty. -/
theorem isItem_loopText (hitem : IsItem item) (hne : item ≠ "") :
    IsItem (loopText n [item]) := by
  refine ⟨not_mem_loopText (by decide) (by decide) hitem.comma,
    not_mem_loopText (by decide) (by decide) hitem.newline, ?_⟩
  have hlist : item.toList ≠ [] := by simpa using hne
  rw [trim, skipBlanks_loopText, toList_loopText_singleton]
  simp only [← List.append_assoc]
  exact skipBlanksEnd_append_of_eq (skipBlanksEnd_of_trim hitem.trimmed) hlist

private theorem trim_loopText_empty (n : Nat) :
    trim (loopText n [""]).toList =
      "for".toList ++
        ([' '] ++ (Numeral.writeNat n ++ ([' '] ++ (">>".toList ++ [])))) := by
  rw [trim, skipBlanks_loopText, toList_loopText_singleton, String.toList_empty,
    List.append_nil, List.append_nil]
  simp only [← List.append_assoc]
  rw [skipBlanksEnd_append_blank (by decide)]
  exact skipBlanksEnd_append_of_eq (by decide) (by decide)

/-- Among the items of a loop, a loop over the empty item loses its last blank,
and what is left of it is unknown like the empty item. -/
theorem Instruction.parse_loop_of_empty {m : Nat} (hm : m < instructionSpace) :
    parse (loopText m [loopText n [""]]) = parse (loopText m [""]) := by
  have hcut : ofChars (trim (loopText n [""]).toList) = .unknown := by
    rw [trim_loopText_empty,
      ofChars_for, loopHere?_append (Numeral.writeNat_ne_nil n)
      fun c hc => Numeral.isDigit_of_mem_writeNat hc]
    rfl
  have hcomma : ',' ∉ (loopText n [""]).toList :=
    not_mem_loopText (by decide) (by decide) (by decide)
  have hnewline : '\n' ∉ (loopText n [""]).toList :=
    not_mem_loopText (by decide) (by decide) (by decide)
  have hempty : parse "" = .unknown := by
    rw [parse, ofChars_eq]
    rfl
  have hitems : ∀ item ∈ [""], IsItem item := by decide
  rw [parse_loopText hitems (List.cons_ne_nil _ _) hm, List.map_singleton,
    hempty, parse, toList_loopText_singleton, ofChars_for, loopHere?_append
    (Numeral.writeNat_ne_nil m) fun c hc => Numeral.isDigit_of_mem_writeNat hc,
    loopBody?_space (skipBlanks_loopText n "") hnewline, Option.map_some,
    splitCommas_of_not_mem hcomma]
  dsimp only
  rw [ofLoop_writeNat hm, List.map_singleton, List.map_singleton, hcut]

end Loops

end Rover
