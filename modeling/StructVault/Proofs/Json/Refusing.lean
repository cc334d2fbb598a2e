import StructVault.Proofs.Json.Accepting

/-!
# Refused values

A value is refused (`Rejects`) if the reader fails at every text of it. A reader settles its values
(`Settles`) if it either accepts or refuses each of them, so that nothing depends on how a value is
spelled. The readers of texts and numbers do (`settles_text`, `settles_optionalText`, `settles_word`).
-/

namespace StructVault.Json

variable {α β : Type} {rest start : List Char} {c : Char} {json : Json}

/-- In front of `start` the reader gives no value. -/
def Fails (reader : Reader α) (start : List Char) : Prop :=
  ∀ offset, ∃ problem left, reader ⟨offset, start⟩ = .error problem left

/-- The reader fails at every text of the JSON value. -/
def Rejects (reader : Reader α) (json : Json) : Prop :=
  ∀ ⦃blank cs rest : List Char⦄, Blank blank → Spells json cs → Delimited rest →
    Fails reader (blank ++ (cs ++ rest))

/-- Every JSON value is either accepted or refused. -/
def Settles (reader : Reader α) : Prop :=
  ∀ json, (∃ value, Accepts reader json value) ∨ Rejects reader json

theorem not_rejects_of_accepts {reader : Reader α} {value : α} (h : Accepts reader json value) :
    ¬ Rejects reader json := by
  intro hrejects
  obtain ⟨behind, htakes⟩ := h blank_nil (spells_compact json) delimited_nil 0
  obtain ⟨problem, left, hfails⟩ := hrejects blank_nil (spells_compact json) delimited_nil 0
  cases htakes.symm.trans hfails

/-! ## Steps -/

theorem fails_fail (cause : Cause) (start : List Char) :
    Fails (Reader.fail cause : Reader α) start :=
  fun _ => ⟨_, _, rfl⟩

theorem fails_failNext (cause : Cause) (start : List Char) :
    Fails (Reader.failNext cause : Reader α) start :=
  fun _ => ⟨_, _, rfl⟩

theorem fails_failTaken (cause : Cause) (start : List Char) :
    Fails (Reader.failTaken cause : Reader α) start :=
  fun _ => ⟨_, _, rfl⟩

theorem fails_throw (problem : Problem) (start : List Char) :
    Fails (throw problem : Reader α) start :=
  fun _ => ⟨_, _, rfl⟩

theorem Fails.bind {reader : Reader α} (h : Fails reader start) (next : α → Reader β) :
    Fails (reader >>= next) start := by
  intro offset
  obtain ⟨problem, left, hreader⟩ := h offset
  exact ⟨problem, left, Steps.bind_eq_error.mpr (Or.inl hreader)⟩

theorem Leads.fails {reader next : Reader α} (h : Leads reader start next rest)
    (hnext : Fails next rest) : Fails reader start := by
  intro offset
  obtain ⟨behind, hreader⟩ := h offset
  obtain ⟨problem, left, hfails⟩ := hnext behind
  exact ⟨problem, left, hreader.trans hfails⟩

theorem Takes.fails {reader : Reader α} {next : α → Reader β} {value : α}
    (h : Takes reader start value rest) (hnext : Fails (next value) rest) :
    Fails (reader >>= next) start :=
  (h.leads next).fails hnext

/-- Where nothing that may follow succeeds, it does not matter what comes first. -/
theorem fails_bind {next : α → Reader β} (h : ∀ value rest, Fails (next value) rest)
    (reader : Reader α) (start : List Char) : Fails (reader >>= next) start := by
  intro offset
  cases hreader : reader ⟨offset, start⟩ with
  | ok value left =>
    obtain ⟨problem, last, hfails⟩ := h value left.rest left.offset
    exact ⟨problem, last, (Steps.bind_of_ok hreader).trans hfails⟩
  | error problem left => exact ⟨problem, left, Steps.bind_eq_error.mpr (Or.inl hreader)⟩

/-! ## Kinds of values -/

theorem opening_null (h : Opening json 'n') : json = .null := by
  unfold Opening at h
  split at h
  case h_1 => rfl
  all_goals exact absurd h (by decide)

theorem opening_string (h : Opening json '"') : ∃ s, json = .string s := by
  unfold Opening at h
  split at h
  case h_5 => exact ⟨_, rfl⟩
  all_goals exact absurd h (by decide)

theorem opening_array (h : Opening json '[') : ∃ items, json = .array items := by
  unfold Opening at h
  split at h
  case h_6 => exact ⟨_, rfl⟩
  all_goals exact absurd h (by decide)

theorem opening_object (h : Opening json '\x7b') : ∃ fields, json = .object fields := by
  unfold Opening at h
  split at h
  case h_7 => exact ⟨_, rfl⟩
  all_goals exact absurd h (by decide)

theorem opening_number (h : Opening json c) (hc : c = '-' ∨ isDigit c = true) :
    ∃ n, json = .number n := by
  unfold Opening at h
  split at h
  case h_4 => exact ⟨_, rfl⟩
  all_goals
    subst h
    exact absurd hc (by decide)

namespace Reader

theorem fails_wrongType (expected : String) (start : List Char) :
    Fails (wrongType expected : Reader α) start :=
  fails_bind (fun _ rest => fails_fail _ rest) found start

/-- A value is refused if all characters are with which it may begin. -/
theorem rejects_of_opening {next : Option Char → Reader α}
    (h : ∀ c rest, Opening json c → Fails (next (some c)) rest) :
    Rejects (peekPastBlanks >>= next) json := by
  intro blank cs rest hblank hspells _
  obtain ⟨c, tail, rfl, hc⟩ := eq_cons_of_spells hspells
  exact (takes_peekPastBlanks hblank (not_isBlank_of_opening hc).1 (tail ++ rest)).fails
    (h c _ hc)

/-! ## Texts -/

theorem rejects_text (h : ∀ s, json ≠ .string s) : Rejects text json := by
  refine rejects_of_opening fun c rest hc => ?_
  split
  · next heq => cases heq
  · next heq =>
    cases heq
    obtain ⟨s, hs⟩ := opening_string hc
    exact absurd hs (h s)
  · exact fails_wrongType _ _

theorem rejects_optionalText (hnull : json ≠ .null) (h : ∀ s, json ≠ .string s) :
    Rejects optionalText json := by
  intro blank cs rest hblank hspells hrest
  have hrejects := rejects_text h blank_nil hspells hrest
  obtain ⟨c, tail, rfl, hc⟩ := eq_cons_of_spells hspells
  refine (takes_peekPastBlanks hblank (not_isBlank_of_opening hc).1 (tail ++ rest)).fails ?_
  split
  · next heq =>
    cases heq
    exact absurd (opening_null hc) hnull
  · exact hrejects.bind _

theorem settles_text : Settles text := by
  intro json
  by_cases hstring : ∃ s, json = .string s
  · obtain ⟨s, rfl⟩ := hstring
    exact Or.inl ⟨s, accepts_text s⟩
  · exact Or.inr (rejects_text fun s hs => hstring ⟨s, hs⟩)

theorem settles_optionalText : Settles optionalText := by
  intro json
  by_cases hnull : json = .null
  · rw [hnull]
    exact Or.inl ⟨none, accepts_optionalText_null⟩
  · by_cases hstring : ∃ s, json = .string s
    · obtain ⟨s, rfl⟩ := hstring
      exact Or.inl ⟨some s, accepts_optionalText_string s⟩
    · exact Or.inr (rejects_optionalText hnull fun s hs => hstring ⟨s, hs⟩)

/-! ## Numbers -/

/-- In front of `start` the reader gives no whole number that is not negative. -/
def NoWhole (reader : Reader Number) (start : List Char) : Prop :=
  ∀ offset value left, reader ⟨offset, start⟩ ≠ .ok (.unsigned value) left

theorem noWhole_of_fails {reader : Reader Number} (h : Fails reader start) :
    NoWhole reader start := by
  intro offset value left hok
  obtain ⟨problem, last, hfails⟩ := h offset
  cases hok.symm.trans hfails

theorem noWhole_pure {number : Number} (h : ∀ value, number ≠ .unsigned value)
    (start : List Char) : NoWhole (pure number) start := by
  intro offset value left hok
  cases hok
  exact h value rfl

theorem noWhole_bind {reader : Reader α} {next : α → Reader Number}
    (h : ∀ value rest, NoWhole (next value) rest) (start : List Char) :
    NoWhole (reader >>= next) start := by
  intro offset value left hok
  obtain ⟨between, ⟨middle, rest⟩, -, hnext⟩ := Steps.bind_eq_ok.mp hok
  exact h between rest middle value left hnext

theorem noWhole_of_takes {reader : Reader α} {next : α → Reader Number} {value : α}
    (h : Takes reader start value rest) (hnext : NoWhole (next value) rest) :
    NoWhole (reader >>= next) start := by
  intro offset number left hok
  obtain ⟨behind, hreader⟩ := h offset
  rw [Steps.bind_of_ok hreader] at hok
  exact hnext behind number left hok

theorem noWhole_get {next : Input → Reader Number} (h : ∀ offset, NoWhole (next ⟨offset, start⟩) start) :
    NoWhole (MonadState.get >>= next) start :=
  fun offset => h offset offset

theorem noWhole_double (negative : Bool) (significand : Nat) (power : Int) (start : List Char) :
    NoWhole (double negative significand power) start := by
  unfold double
  split
  · exact noWhole_pure (by simp) start
  · exact noWhole_of_fails (fails_fail _ start)

/-- A number with an exponent is a double, if it is one at all. -/
theorem noWhole_exponent (negative : Bool) (significand : Nat) (power : Int) (start : List Char) :
    NoWhole (exponent negative significand power) start := by
  refine noWhole_bind (fun positive rest => noWhole_bind (fun next rest => ?_) rest) start
  split
  · exact noWhole_of_fails (fails_fail _ rest)
  · split
    · exact noWhole_of_fails (fails_failTaken _ rest)
    · refine noWhole_bind (fun before rest => noWhole_bind (fun found rest => ?_) rest) rest
      split
      · exact noWhole_double _ _ _ rest
      · split
        · exact noWhole_of_fails (fails_throw _ rest)
        · exact noWhole_pure (by simp) rest

theorem noWhole_exponent? (negative : Bool) (significand : Nat) (power : Int) (start : List Char) :
    NoWhole (exponent? negative significand power) start := by
  refine noWhole_bind (fun next rest => ?_) start
  split
  · exact noWhole_bind (fun _ rest => noWhole_exponent _ _ _ rest) rest
  · exact noWhole_bind (fun _ rest => noWhole_exponent _ _ _ rest) rest
  · exact noWhole_double _ _ _ rest

theorem noWhole_fraction (negative : Bool) (significand : Nat) (power : Int) (start : List Char) :
    NoWhole (fraction negative significand power) start := by
  refine noWhole_bind (fun found rest => ?_) start
  split
  · refine noWhole_bind (fun next rest => ?_) rest
    split
    · exact noWhole_of_fails (fails_failNext _ rest)
    · exact noWhole_of_fails (fails_failNext _ rest)
  · exact noWhole_exponent? _ _ _ rest

/-- Behind a sign there is no whole number that is not negative. -/
theorem noWhole_negative (start : List Char) : NoWhole (number true) start := by
  refine noWhole_bind (fun next rest => ?_) start
  split
  · exact noWhole_of_fails (fails_fail _ rest)
  · split
    · exact noWhole_of_fails (fails_failTaken _ rest)
    · refine noWhole_bind (fun before rest => noWhole_bind (fun found rest => ?_) rest) rest
      dsimp only
      split
      · exact noWhole_of_fails ((fails_throw _ rest).bind _)
      · refine noWhole_bind (fun next rest => ?_) rest
        split
        · exact noWhole_bind (fun _ rest => noWhole_fraction _ _ _ rest) rest
        · exact noWhole_bind (fun _ rest => noWhole_exponent _ _ _ rest) rest
        · exact noWhole_bind (fun _ rest => noWhole_exponent _ _ _ rest) rest
        · split
          · exact noWhole_double _ _ _ rest
          · rw [if_neg (by decide)]
            split
            · exact noWhole_pure (by simp) rest
            · exact noWhole_pure (by simp) rest

/-- A number with a point or an exponent, or with more digits than fit, is no whole number. -/
theorem noWhole_number (n : Nat) (hend : ∀ c ∈ rest.head?, isDigit c = false)
    (h : (∃ c ∈ rest.head?, c = '.' ∨ c = 'e' ∨ c = 'E')
      ∨ (absorb 0 (Nat.toDigits 10 n)).2 ≠ []) :
    NoWhole (number false) (Nat.toDigits 10 n ++ rest) := by
  obtain ⟨c, hdigit, hzero, hpeek, hwhole⟩ := takes_whole n hend
  refine noWhole_of_takes hpeek ?_
  show NoWhole (if !isDigit c then _ else _) _
  rw [hdigit]
  refine noWhole_get fun offset => noWhole_of_takes hwhole ?_
  dsimp only
  rw [if_neg hzero]
  refine noWhole_of_takes (takes_peek rest) ?_
  split
  · exact noWhole_bind (fun _ rest => noWhole_fraction _ _ _ rest) rest
  · exact noWhole_bind (fun _ rest => noWhole_exponent _ _ _ rest) rest
  · exact noWhole_bind (fun _ rest => noWhole_exponent _ _ _ rest) rest
  · next hpoint hmark hcapital =>
    rcases h with ⟨c, hc, rfl | rfl | rfl⟩ | hleft
    · exact absurd hc hpoint
    · exact absurd hc hmark
    · exact absurd hc hcapital
    · rw [if_pos (by simpa using hleft)]
      exact noWhole_double _ _ _ rest

theorem fails_fits {reader : Reader Number} (h : NoWhole reader start) :
    Fails (reader >>= word.fits) start := by
  intro offset
  cases hreader : reader ⟨offset, start⟩ with
  | error problem left => exact ⟨problem, left, Steps.bind_eq_error.mpr (Or.inl hreader)⟩
  | ok number left =>
    cases number with
    | unsigned value => exact absurd hreader (h offset value left)
    | negative magnitude => exact ⟨_, left, Steps.bind_of_ok hreader⟩
    | double value => exact ⟨_, left, Steps.bind_of_ok hreader⟩

/-- A number is refused unless it is spelled with digits alone and they fit. -/
theorem rejects_number {n : Numeral} (h : n.negative = true ∨ n.fraction ≠ [] ∨ n.exponent ≠ none
    ∨ (absorb 0 (Nat.toDigits 10 n.whole)).2 ≠ []) : Rejects word (.number n) := by
  intro blank cs rest hblank hspells hrest
  cases hspells with
  | @number _ exponent hexponent =>
    have hend := head_exponent hexponent hrest
    unfold mantissa
    simp only [List.append_assoc]
    by_cases hnegative : n.negative = true
    · rw [if_pos hnegative]
      refine (takes_peekPastBlanks hblank (by decide : isBlank '-' = false) _).fails ?_
      exact (takes_advance '-' _).fails (fails_fits (noWhole_negative _))
    · rw [if_neg hnegative, List.nil_append]
      have hnumber : NoWhole (number false)
          (Nat.toDigits 10 n.whole ++ (decimals n ++ (exponent ++ rest))) := by
        refine noWhole_number n.whole (head_decimals n fun c hc => (hend c hc).1) ?_
        by_cases hfraction : n.fraction = []
        · rw [decimals, if_pos (List.isEmpty_iff.mpr hfraction), List.nil_append]
          cases hexponent' : n.exponent with
          | none =>
            rw [hexponent'] at h
            exact Or.inr (by simpa [hnegative, hfraction] using h)
          | some power =>
            rw [hexponent'] at hexponent
            cases hexponent with
            | some hmark => exact Or.inl ⟨_, rfl, Or.inr hmark⟩
        · rw [decimals, if_neg fun hempty => hfraction (List.isEmpty_iff.mp hempty)]
          exact Or.inl ⟨'.', rfl, Or.inl rfl⟩
      obtain ⟨c, tail, hcons, hdigit, -⟩ := exists_toDigits_cons n.whole
      rw [hcons] at hnumber ⊢
      refine (takes_peekPastBlanks hblank (not_isBlank_of_isDigit hdigit) _).fails ?_
      show Fails (if (c == '-') = true then _ else if isDigit c = true then _ else _) _
      rw [if_neg (by simpa using ne_of_isDigit hdigit (by decide : isDigit '-' = false)),
        if_pos hdigit]
      exact fails_fits hnumber

theorem rejects_word (h : ∀ n, json ≠ .number n) : Rejects word json := by
  refine rejects_of_opening fun c rest hc => ?_
  have hnumber : ¬ (c = '-' ∨ isDigit c = true) := by
    intro hopening
    obtain ⟨n, hn⟩ := opening_number hc hopening
    exact h n hn
  show Fails (if (c == '-') = true then _ else if isDigit c = true then _ else _) _
  rw [if_neg fun hminus => hnumber (Or.inl (by simpa using hminus)),
    if_neg fun hdigit => hnumber (Or.inr hdigit)]
  exact fails_wrongType _ rest

theorem settles_word : Settles word := by
  intro json
  by_cases hnumber : ∃ n, json = .number n
  · obtain ⟨⟨negative, whole, fraction, exponent⟩, rfl⟩ := hnumber
    by_cases hrejects : negative = true ∨ fraction ≠ [] ∨ exponent ≠ none
        ∨ (absorb 0 (Nat.toDigits 10 whole)).2 ≠ []
    · exact Or.inr (rejects_number hrejects)
    · obtain ⟨hnegative, hfraction, hexponent, hleft⟩ : ¬ negative = true ∧ fraction = []
          ∧ exponent = none ∧ (absorb 0 (Nat.toDigits 10 whole)).2 = [] := by
        simpa using hrejects
      obtain rfl : negative = false := by simpa using hnegative
      subst hfraction hexponent
      exact Or.inl ⟨_, accepts_word_of_absorb (Prod.ext rfl hleft)⟩
  · exact Or.inr (rejects_word fun n hn => hnumber ⟨n, hn⟩)

end Reader

end StructVault.Json
