import StructVault.Proofs.Json.Boundaries

/-!
# Values that are passed over

A value that nobody wants is passed over exactly, whatever it is and however deep it is nested
(`takes_skipValue`). The brackets that are open are held in a list instead of the calls of a recursion,
so what follows a value is said by `Resumes`: with these brackets open the text is taken up to the end of
the outermost of them. The rounds that are left matter only in that there are enough, and every value
takes a character for each of its own.
-/

namespace StructVault.Json

variable {blank before inner cs more rest last : List Char} {bound : Nat} {opened : List Bracket}

/-! ## Texts and numbers -/

theorem skipChars_passing : ∀ (taken rest : List Char) (offset : Nat),
    ∃ behind, skipChars (taken ++ rest) offset taken.length = skipChars rest behind 0
  | [], _, offset => ⟨offset, rfl⟩
  | c :: taken, rest, offset => skipChars_passing taken rest (offset + c.utf8Size)

theorem skipChars_of_spellsUnit {n : Nat} {digits : List Char} (h : SpellsUnit n digits)
    (rest : List Char) (offset : Nat) :
    ∃ behind, skipChars ('\\' :: 'u' :: (digits ++ rest)) offset 0 = skipChars rest behind 0 := by
  have hlength : ('u' :: digits).length = 5 := by rw [List.length_cons, length_of_spellsUnit h]
  have hescape : escapeLength (offset + 1) ('u' :: (digits ++ rest)) = .ok 5 := by
    show (hexUnit (offset + 1 + 1) (digits ++ rest)).map _ = _
    rw [hexUnit_of_spells h]
    rfl
  have hstep : skipChars ('\\' :: 'u' :: (digits ++ rest)) offset 0
      = skipChars ('u' :: digits ++ rest) (offset + 1) ('u' :: digits).length := by
    simp [skipChars, hescape, hlength]
  obtain ⟨behind, hpassed⟩ := skipChars_passing ('u' :: digits) rest (offset + 1)
  exact ⟨behind, hstep.trans hpassed⟩

/-- Each character is passed over in whatever text it has. Two surrogates are two escapes here. -/
theorem skipChars_of_spells {c : Char} {text : List Char} (h : SpellsChar c text)
    (rest : List Char) (offset : Nat) :
    ∃ behind, skipChars (text ++ rest) offset 0 = skipChars rest behind 0 := by
  cases h with
  | self hquote hbackslash hcontrol =>
    refine ⟨offset + c.utf8Size, ?_⟩
    show (if (c == '"') = true then _ else if (c == '\\') = true then _
      else if c.toNat < 32 then _ else _) = _
    rw [if_neg (by simpa using hquote), if_neg (by simpa using hbackslash), if_neg hcontrol]
    rfl
  | @letter letter h =>
    refine ⟨offset + 1 + letter.utf8Size, ?_⟩
    have hescape : escapeLength (offset + 1) (letter :: rest) = .ok 1 := by
      simp only [escapeLetters, List.mem_cons, List.not_mem_nil, or_false, Prod.mk.injEq] at h
      rcases h with h | h | h | h | h | h | h | h <;>
        · obtain ⟨rfl, rfl⟩ := h
          rfl
    simp [skipChars, hescape]
  | unit h => exact skipChars_of_spellsUnit h rest offset
  | @pair _ _ front behind _ _ _ hfront hbehind =>
    obtain ⟨between, hfirst⟩ := skipChars_of_spellsUnit hfront ('\\' :: 'u' :: (behind ++ rest)) offset
    obtain ⟨last, hsecond⟩ := skipChars_of_spellsUnit hbehind rest between
    refine ⟨last, ?_⟩
    simp only [List.cons_append, List.append_assoc]
    exact hfirst.trans hsecond

namespace Reader

theorem takes_skipString {cs : List Char} (h : SpellsChars cs inner) (rest : List Char) :
    Takes skipString (inner ++ '"' :: rest) () rest := by
  have hchars : ∀ offset, ∃ behind,
      skipChars (inner ++ '"' :: rest) offset 0 = .ok ⟨behind, rest⟩ := by
    induction h with
    | nil =>
      intro offset
      exact ⟨offset + 1, rfl⟩
    | cons hc hcs ih =>
      intro offset
      rw [List.append_assoc]
      obtain ⟨between, hfirst⟩ := skipChars_of_spells hc (_ ++ '"' :: rest) offset
      obtain ⟨behind, hrest⟩ := ih between
      exact ⟨behind, hfirst.trans hrest⟩
  intro offset
  obtain ⟨behind, hall⟩ := hchars offset
  refine ⟨behind, ?_⟩
  unfold skipString
  rw [hall]

theorem takes_exponentSign {power : Int} {sign digits : List Char}
    (hsign : 0 ≤ power ∧ (sign = [] ∨ sign = ['+']) ∨ power ≤ 0 ∧ sign = ['-'])
    (hne : digits ≠ []) (hdigits : ∀ c ∈ digits, isDigit c = true) (rest : List Char) :
    ∃ positive, Takes exponentSign (sign ++ (digits ++ rest)) positive (digits ++ rest) := by
  rcases hsign with ⟨-, rfl | rfl⟩ | ⟨-, rfl⟩
  · obtain ⟨c, tail, rfl⟩ := List.exists_cons_of_ne_nil hne
    have hc := hdigits c List.mem_cons_self
    refine ⟨true, (takes_peek (c :: tail ++ rest)).bind ?_⟩
    split
    · next heq => exact absurd (Option.some.inj heq) (ne_of_isDigit hc (by decide))
    · next heq => exact absurd (Option.some.inj heq) (ne_of_isDigit hc (by decide))
    · exact Takes.pure true _
  · exact ⟨true, (takes_peek _).bind ((takes_advance '+' _).bind (Takes.pure true _))⟩
  · exact ⟨false, (takes_peek _).bind ((takes_advance '-' _).bind (Takes.pure false _))⟩

theorem takes_skipExponent? {power : Option Int} (h : SpellsExponent power cs)
    (hrest : Delimited rest) : Takes skipExponent? (cs ++ rest) () rest := by
  cases h with
  | none =>
    refine (takes_peek rest).bind ?_
    split
    · next heq => exact absurd rfl (hrest _ heq).2.2.1
    · next heq => exact absurd rfl (hrest _ heq).2.2.2
    · exact Takes.pure () rest
  | @some _ mark sign digits hmark hsign hne hdigits _ =>
    have hdigits : ∀ c ∈ digits, isDigit c = true := fun c hc => isDigit_of_char (hdigits c hc)
    obtain ⟨positive, hpositive⟩ := takes_exponentSign hsign hne hdigits rest
    obtain ⟨c, tail, rfl⟩ := List.exists_cons_of_ne_nil hne
    have hc := hdigits c List.mem_cons_self
    have hskip : Takes skipExponent (sign ++ (c :: tail ++ rest)) () rest := by
      refine hpositive.bind ((takes_peek (c :: tail ++ rest)).bind ?_)
      show Takes (if isDigit c = true then _ else _) _ _ _
      rw [if_pos hc]
      exact (takes_digits hdigits fun c hc => (hrest c hc).1).bind (Takes.pure () rest)
    rw [List.cons_append, List.append_assoc]
    rcases hmark with rfl | rfl
    · exact (takes_peek _).bind ((takes_advance 'e' _).bind hskip)
    · exact (takes_peek _).bind ((takes_advance 'E' _).bind hskip)

/-- An exponent, or what follows instead of one, begins with no digit and no point. -/
theorem head_exponent {power : Option Int} (h : SpellsExponent power cs) (hrest : Delimited rest) :
    ∀ c ∈ (cs ++ rest).head?, isDigit c = false ∧ c ≠ '.' := by
  cases h with
  | none => exact fun c hc => ⟨(hrest c hc).1, (hrest c hc).2.1⟩
  | some hmark =>
    rintro c hc
    cases hc
    rcases hmark with rfl | rfl <;> decide

/-- What stands behind the whole part of a number does not go on with it. -/
theorem head_decimals (n : Numeral) (h : ∀ c ∈ rest.head?, isDigit c = false) :
    ∀ c ∈ (decimals n ++ rest).head?, isDigit c = false := by
  unfold decimals
  split
  · exact h
  · rintro c hc
    cases hc
    rfl

theorem isDigit_of_mem_fraction (n : Numeral) :
    ∀ c ∈ n.fraction.map fun digit => Nat.digitChar digit.val, isDigit c = true := by
  intro c hc
  obtain ⟨digit, -, rfl⟩ := List.mem_map.mp hc
  have hdigit : ∀ digit : Fin 10, isDigit (Nat.digitChar digit.val) = true := by decide
  exact hdigit digit

theorem takes_skipNumber (n : Numeral) {power : Option Int} (h : SpellsExponent power cs)
    (hrest : Delimited rest) :
    Takes skipNumber (Nat.toDigits 10 n.whole ++ (decimals n ++ (cs ++ rest))) () rest := by
  have hexponent := head_exponent h hrest
  obtain ⟨c, hdigit, hzero, hpeek, hwhole⟩ :=
    takes_whole n.whole (head_decimals n fun c hc => (hexponent c hc).1)
  refine hpeek.bind ?_
  show Takes (if !isDigit c then _ else _) _ _ _
  rw [hdigit]
  refine Takes.get fun offset => hwhole.bind ?_
  dsimp only
  rw [if_neg hzero]
  by_cases hfraction : n.fraction = []
  · have hnone : decimals n = [] := by rw [decimals, if_pos (List.isEmpty_iff.mpr hfraction)]
    rw [hnone, List.nil_append]
    refine (takes_peek (cs ++ rest)).bind ?_
    split
    · next heq => exact absurd rfl (hexponent _ heq).2
    · exact takes_skipExponent? h hrest
  · have hsome : decimals n = '.' :: n.fraction.map fun digit => Nat.digitChar digit.val := by
      rw [decimals, if_neg fun hempty => hfraction (List.isEmpty_iff.mp hempty)]
    have hdigits := takes_digits (isDigit_of_mem_fraction n) fun c hc => (hexponent c hc).1
    have hfound : ¬ (n.fraction.map fun digit => Nat.digitChar digit.val).isEmpty = true := by
      rw [List.isEmpty_iff, List.map_eq_nil_iff]
      exact hfraction
    rw [hsome, List.cons_append]
    refine (takes_peek _).bind ((takes_advance '.' _).bind (hdigits.bind ?_))
    rw [if_neg hfound]
    exact takes_skipExponent? h hrest

/-! ## Values -/

/-- What is no list and no object is passed over as a whole. -/
theorem takes_skipHead {json : Json} (hblank : Blank blank) (h : Spells json cs)
    (hrest : Delimited rest) (hlist : ∀ items, json ≠ .array items)
    (hobject : ∀ fields, json ≠ .object fields) :
    Takes skipHead (blank ++ (cs ++ rest)) none rest := by
  cases h with
  | null =>
    refine (takes_peekPastBlanks hblank (by decide : isBlank 'n' = false) _).bind ?_
    refine (takes_advance 'n' _).bind ?_
    exact (takes_literal ['u', 'l', 'l'] rest).bind (Takes.pure none rest)
  | true =>
    refine (takes_peekPastBlanks hblank (by decide : isBlank 't' = false) _).bind ?_
    refine (takes_advance 't' _).bind ?_
    exact (takes_literal ['r', 'u', 'e'] rest).bind (Takes.pure none rest)
  | false =>
    refine (takes_peekPastBlanks hblank (by decide : isBlank 'f' = false) _).bind ?_
    refine (takes_advance 'f' _).bind ?_
    exact (takes_literal ['a', 'l', 's', 'e'] rest).bind (Takes.pure none rest)
  | string h =>
    rw [List.cons_append, List.append_assoc]
    refine (takes_peekPastBlanks hblank (by decide : isBlank '"' = false) _).bind ?_
    exact (takes_advance '"' _).bind ((takes_skipString h rest).bind (Takes.pure none rest))
  | @number n exponent hexponent =>
    have hnumber := takes_skipNumber n hexponent hrest
    unfold mantissa
    rw [List.append_assoc, List.append_assoc, List.append_assoc]
    by_cases hnegative : n.negative = true
    · rw [if_pos hnegative]
      refine (takes_peekPastBlanks hblank (by decide : isBlank '-' = false) _).bind ?_
      exact (takes_advance '-' _).bind (hnumber.bind (Takes.pure none rest))
    · rw [if_neg hnegative, List.nil_append]
      obtain ⟨c, tail, hcons, hdigit, -⟩ := exists_toDigits_cons n.whole
      rw [hcons] at hnumber ⊢
      refine (takes_peekPastBlanks hblank (not_isBlank_of_isDigit hdigit) _).bind ?_
      -- a digit is none of the characters that the other kinds of values begin with
      split
      · next heq => cases heq
      iterate 6 next heq => exact absurd (Option.some.inj heq) (ne_of_isDigit hdigit (by decide))
      · next heq =>
        cases heq
        rw [if_neg (by simpa using ne_of_isDigit hdigit (by decide : isDigit '-' = false)),
          if_pos hdigit]
        exact hnumber.bind (Takes.pure none rest)
  | emptyArray => exact absurd rfl (hlist [])
  | array => exact absurd rfl (hlist _)
  | emptyObject => exact absurd rfl (hobject [])
  | object => exact absurd rfl (hobject _)

theorem takes_skipKey {key : List Char} (hblank : Blank blank) (hkey : SpellsChars key inner)
    (hbefore : Blank before) (rest : List Char) :
    Takes skipKey (blank ++ '"' :: (inner ++ '"' :: (before ++ ':' :: rest))) () rest := by
  refine (takes_peekPastBlanks hblank (by decide : isBlank '"' = false) _).bind ?_
  refine (takes_advance '"' _).bind ((takes_skipString hkey _).bind ?_)
  refine (takes_peekPastBlanks hbefore (by decide : isBlank ':' = false) _).bind ?_
  exact takes_advance ':' rest

/-- With these brackets open, behind a value or behind the last bracket, the text is taken up to the end
of the outermost of them in as many rounds as `bound` or more. -/
def Resumes (opened : List Bracket) (afterValue : Bool) (bound : Nat) (text last : List Char) : Prop :=
  ∀ rounds, bound ≤ rounds →
    Takes (skipClosers opened afterValue >>= skipOpened.goOn rounds) text () last

theorem resumes_nil (rest : List Char) : Resumes [] true 0 rest rest := by
  intro rounds _
  refine (Takes.pure [] rest).bind ?_
  rw [skipOpened.goOn]
  exact Takes.pure () rest

theorem Resumes.close (h : Resumes opened true bound rest last) (hblank : Blank blank)
    (bracket : Bracket) (afterValue : Bool) :
    Resumes (bracket :: opened) afterValue bound (blank ++ bracket.closer :: rest) last := by
  intro rounds hrounds
  have hcloser : isBlank bracket.closer = false := by cases bracket <;> rfl
  show Takes ((peekPastBlanks >>= _) >>= _) _ _ _
  rw [bind_assoc]
  refine (takes_peekPastBlanks hblank hcloser rest).bind ?_
  show Takes ((if (bracket.closer == bracket.closer) = true then _ else _) >>= _) _ _ _
  rw [if_pos (beq_self_eq_true _), bind_assoc]
  exact (takes_advance bracket.closer rest).bind (h rounds hrounds)

/-- A comma is taken behind a value, and the next item or field is due. -/
theorem resumes_comma {bracket : Bracket} (hbefore : Blank before)
    (h : ∀ rounds, bound ≤ rounds → Takes (skipOpened.goOn rounds (bracket :: opened)) rest () last) :
    Resumes (bracket :: opened) true bound (before ++ ',' :: rest) last := by
  intro rounds hrounds
  have hcloser : ¬ (',' == bracket.closer) = true := by cases bracket <;> decide
  show Takes ((peekPastBlanks >>= _) >>= _) _ _ _
  rw [bind_assoc]
  refine (takes_peekPastBlanks hbefore (by decide : isBlank ',' = false) rest).bind ?_
  show Takes ((if (',' == bracket.closer) = true then _ else _) >>= _) _ _ _
  rw [if_neg hcloser, if_neg (by decide), if_pos (by decide), bind_assoc]
  exact (takes_advance ',' rest).bind ((Takes.pure _ rest).bind (h rounds hrounds))

/-- Behind a bracket the first item or field is due at once. -/
theorem resumes_first {bracket : Bracket} {c : Char} (hblank : Blank blank)
    (hhead : rest.head? = some c) (hc : isBlank c = false) (hcloser : c ≠ bracket.closer)
    (h : ∀ rounds, bound ≤ rounds →
      Takes (skipOpened.goOn rounds (bracket :: opened)) rest () last) :
    Resumes (bracket :: opened) false bound (blank ++ rest) last := by
  intro rounds hrounds
  obtain ⟨tail, rfl⟩ := List.head?_eq_some_iff.mp hhead
  show Takes ((peekPastBlanks >>= _) >>= _) _ _ _
  rw [bind_assoc]
  refine (takes_peekPastBlanks hblank hc tail).bind ?_
  show Takes ((if (c == bracket.closer) = true then _ else _) >>= _) _ _ _
  rw [if_neg (by simpa using hcloser)]
  exact (Takes.pure _ (c :: tail)).bind (h rounds hrounds)

/-- What is neither a list nor an object is over with its head. -/
theorem takes_skipOpened_head {rounds : Nat} (h : Takes skipHead cs none rest)
    (hresume : Resumes opened true bound rest last) (hrounds : bound < rounds) :
    Takes (skipOpened rounds opened) cs () last := by
  obtain ⟨left, rfl⟩ := Nat.exists_eq_succ_of_ne_zero (Nat.ne_zero_of_lt hrounds)
  rw [skipOpened]
  exact h.bind (hresume left (Nat.le_of_lt_succ hrounds))

theorem takes_skipOpened_bracket {rounds : Nat} {bracket : Bracket}
    (h : Takes skipHead cs (some bracket) rest)
    (hresume : Resumes (bracket :: opened) false bound rest last) (hrounds : bound < rounds) :
    Takes (skipOpened rounds opened) cs () last := by
  obtain ⟨left, rfl⟩ := Nat.exists_eq_succ_of_ne_zero (Nat.ne_zero_of_lt hrounds)
  rw [skipOpened]
  exact h.bind (hresume left (Nat.le_of_lt_succ hrounds))

theorem takes_skipHead_list (hblank : Blank blank) (rest : List Char) :
    Takes skipHead (blank ++ '[' :: rest) (some .list) rest :=
  (takes_peekPastBlanks hblank (by decide : isBlank '[' = false) rest).bind
    ((takes_advance '[' rest).bind (Takes.pure (some Bracket.list) rest))

theorem takes_skipHead_object (hblank : Blank blank) (rest : List Char) :
    Takes skipHead (blank ++ '\x7b' :: rest) (some .object) rest :=
  (takes_peekPastBlanks hblank (by decide : isBlank '\x7b' = false) rest).bind
    ((takes_advance '\x7b' rest).bind (Takes.pure (some Bracket.object) rest))

theorem takes_goOn_list {rounds : Nat}
    (h : Takes (skipOpened rounds (.list :: opened)) cs () last) :
    Takes (skipOpened.goOn rounds (.list :: opened)) cs () last := by
  rw [skipOpened.goOn]
  exact h

theorem takes_goOn_object {rounds : Nat} {key : List Char} (hblank : Blank blank)
    (hkey : SpellsChars key inner) (hbefore : Blank before)
    (h : Takes (skipOpened rounds (.object :: opened)) rest () last) :
    Takes (skipOpened.goOn rounds (.object :: opened))
      (blank ++ '"' :: (inner ++ '"' :: (before ++ ':' :: rest))) () last := by
  rw [skipOpened.goOn]
  exact (takes_skipKey hblank hkey hbefore rest).bind h

/-- With its brackets open, whatever has these texts is passed over as long as there are rounds. -/
def PassedOver (cs : List Char) : Prop :=
  ∀ ⦃blank rest last : List Char⦄ ⦃bound rounds : Nat⦄ ⦃opened : List Bracket⦄, Blank blank →
    Delimited rest → Resumes opened true bound rest last → bound + cs.length ≤ rounds →
      Takes (skipOpened rounds opened) (blank ++ (cs ++ rest)) () last

theorem passedOver_of_head {json : Json} (h : Spells json cs) (hlist : ∀ items, json ≠ .array items)
    (hobject : ∀ fields, json ≠ .object fields) : PassedOver cs := by
  intro blank rest last bound rounds opened hblank hrest hresume hrounds
  obtain ⟨c, tail, rfl, -⟩ := eq_cons_of_spells h
  simp only [List.length_cons] at hrounds
  exact takes_skipOpened_head (takes_skipHead hblank h hrest hlist hobject) hresume (by omega)

mutual

theorem passedOver_of_spells : ∀ {json : Json} {cs : List Char}, Spells json cs → PassedOver cs
  | _, _, .null => passedOver_of_head .null nofun nofun
  | _, _, .true => passedOver_of_head .true nofun nofun
  | _, _, .false => passedOver_of_head .false nofun nofun
  | _, _, .number h => passedOver_of_head (.number h) nofun nofun
  | _, _, .string h => passedOver_of_head (.string h) nofun nofun
  | _, _, .emptyArray hinner => by
    intro blank rest last bound rounds opened hblank hrest hresume hrounds
    rw [List.cons_append, List.append_assoc]
    simp only [List.length_cons] at hrounds
    exact takes_skipOpened_bracket (takes_skipHead_list hblank _)
      (hresume.close hinner .list false) (by omega)
  | _, _, .emptyObject hinner => by
    intro blank rest last bound rounds opened hblank hrest hresume hrounds
    rw [List.cons_append, List.append_assoc]
    simp only [List.length_cons] at hrounds
    exact takes_skipOpened_bracket (takes_skipHead_object hblank _)
      (hresume.close hinner .object false) (by omega)
  | _, _, @Spells.array inner text more _ _ hinner hitem hitems => by
    intro blank rest last bound rounds opened hblank hrest hresume hrounds
    have hafter := resumes_of_spellsItems hitems hresume
    have hbound : bound + more.length + text.length < rounds := by
      simp only [List.length_cons, List.length_append] at hrounds
      omega
    obtain ⟨c, hhead, hnotBlank, hbracket⟩ := head_of_spells hitem (more ++ rest)
    simp only [List.cons_append, List.append_assoc]
    refine takes_skipOpened_bracket (takes_skipHead_list hblank _)
      (resumes_first hinner hhead hnotBlank hbracket fun left hleft => ?_) hbound
    refine takes_goOn_list ?_
    exact passedOver_of_spells hitem blank_nil (delimited_items hitems rest) hafter hleft
  | _, _, @Spells.object inner text more _ _ _ hinner hfield hfields => by
    intro blank rest last bound rounds opened hblank hrest hresume hrounds
    have hafter := resumes_of_spellsFields hfields hresume
    have hbound : bound + more.length + text.length < rounds := by
      simp only [List.length_cons, List.length_append] at hrounds
      omega
    have hhead := head_of_spellsField hfield (more ++ rest)
    simp only [List.cons_append, List.append_assoc]
    refine takes_skipOpened_bracket (takes_skipHead_object hblank _)
      (resumes_first hinner hhead (by decide) (by decide) fun left hleft => ?_) hbound
    have hdue := takes_goOn_of_spellsField hfield blank_nil (delimited_fields hfields rest) hafter
      hleft
    exact hdue

theorem takes_goOn_of_spellsField : ∀ {key : String} {json : Json} {cs blank rest last : List Char}
    {bound rounds : Nat} {opened : List Bracket}, SpellsField key json cs → Blank blank →
      Delimited rest → Resumes (.object :: opened) true bound rest last →
        bound + cs.length ≤ rounds →
          Takes (skipOpened.goOn rounds (.object :: opened)) (blank ++ (cs ++ rest)) () last
  | _, _, _, _, rest, _, _, _, _, .mk hkey hbefore hblank hvalue, hstart, hrest, hresume, hrounds => by
    simp only [List.length_cons, List.length_append] at hrounds
    simp only [List.cons_append, List.append_assoc]
    refine takes_goOn_object hstart hkey hbefore ?_
    exact passedOver_of_spells hvalue hblank hrest hresume (by omega)

theorem resumes_of_spellsItems : ∀ {items : List Json} {more rest last : List Char} {bound : Nat}
    {opened : List Bracket}, SpellsItems items more → Resumes opened true bound rest last →
      Resumes (.list :: opened) true (bound + more.length) (more ++ rest) last
  | _, _, rest, last, bound, opened, .nil hblank, hresume => by
    rw [List.append_assoc]
    exact fun rounds hrounds => hresume.close hblank .list true rounds (by omega)
  | _, _, rest, last, bound, opened, .cons hbefore hblank hitem hitems, hresume => by
    have hafter := resumes_of_spellsItems hitems hresume
    simp only [List.cons_append, List.append_assoc, List.length_append, List.length_cons]
    refine resumes_comma hbefore fun left hleft => takes_goOn_list ?_
    exact passedOver_of_spells hitem hblank (delimited_items hitems rest) hafter (by omega)

theorem resumes_of_spellsFields : ∀ {fields : List (String × Json)} {more rest last : List Char}
    {bound : Nat} {opened : List Bracket}, SpellsFields fields more →
      Resumes opened true bound rest last →
        Resumes (.object :: opened) true (bound + more.length) (more ++ rest) last
  | _, _, rest, last, bound, opened, .nil hblank, hresume => by
    rw [List.append_assoc]
    exact fun rounds hrounds => hresume.close hblank .object true rounds (by omega)
  | _, _, rest, last, bound, opened, .cons hbefore hblank hfield hfields, hresume => by
    have hafter := resumes_of_spellsFields hfields hresume
    simp only [List.cons_append, List.append_assoc, List.length_append, List.length_cons]
    refine resumes_comma hbefore fun left hleft => ?_
    exact takes_goOn_of_spellsField hfield hblank (delimited_fields hfields rest) hafter (by omega)

end

/-- **Unwanted values** are passed over to their end, whatever they are. -/
theorem takes_skipValue {json : Json} (hblank : Blank blank) (h : Spells json cs)
    (hrest : Delimited rest) : Takes skipValue (blank ++ (cs ++ rest)) () rest := by
  refine (takes_rounds _).bind ?_
  refine passedOver_of_spells h hblank hrest (resumes_nil rest) ?_
  simp only [List.length_append]
  omega

end Reader

end StructVault.Json
