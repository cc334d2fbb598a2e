import StructVault.Json.Skip
import StructVault.Proofs.Steps

/-!
# What readers take

`Takes reader text value rest`: in front of `text` the reader gives `value` and stops in front of
`rest`. How many bytes it has counted does not matter for that, as long as nothing goes wrong, and
the relation leaves the count out. A reader made of others takes what they take one after the other
(`Takes.bind`). Where it is not yet known whether all of them give a value, `Leads` says how far the
reader comes and how it goes on.

Between two tokens there may be any blanks (`Blank`). Behind a number something has to stand that
does not belong to it (`Delimited`), or the number would go on.
-/

namespace StructVault.Json

open Steps

/-- In front of `text` the reader gives `value`, and leaves `rest`. -/
def Takes {α : Type} (reader : Reader α) (text : List Char) (value : α) (rest : List Char) : Prop :=
  ∀ offset, ∃ behind, reader ⟨offset, text⟩ = .ok value ⟨behind, rest⟩

/-- In front of `text` the reader goes on as `next` does in front of `rest`. -/
def Leads {α : Type} (reader : Reader α) (text : List Char) (next : Reader α) (rest : List Char) :
    Prop :=
  ∀ offset, ∃ behind, reader ⟨offset, text⟩ = next ⟨behind, rest⟩

/-- There is nothing but blanks. -/
def Blank (text : List Char) : Prop := ∀ c ∈ text, isBlank c = true

/-- No number goes on into the text. -/
def Delimited (text : List Char) : Prop :=
  ∀ c ∈ text.head?, isDigit c = false ∧ c ≠ '.' ∧ c ≠ 'e' ∧ c ≠ 'E'

variable {α β : Type} {text blank rest : List Char} {c : Char}

theorem blank_nil : Blank [] := fun _ h => nomatch h

/-- A prefix is cut off where the first character stands that it may not have. -/
theorem takeWhile_front {p : Char → Bool} {front : List Char} (hfront : ∀ c ∈ front, p c = true)
    (hrest : ∀ c ∈ rest.head?, p c = false) : (front ++ rest).takeWhile p = front := by
  have hnone : rest.takeWhile p = [] := by
    cases rest with
    | nil => rfl
    | cons c cs => exact List.takeWhile_cons_of_neg (by simp [hrest c rfl])
  rw [List.takeWhile_append_of_pos hfront, hnone, List.append_nil]

/-! ## Steps -/

namespace Takes

theorem pure (value : α) (text : List Char) : Takes (Pure.pure value) text value text :=
  fun offset => ⟨offset, rfl⟩

theorem bind {reader : Reader α} {next : α → Reader β} {between : List Char} {value : α} {end' : β}
    (h : Takes reader text value between) (hnext : Takes (next value) between end' rest) :
    Takes (reader >>= next) text end' rest := fun offset => by
  obtain ⟨behind, hreader⟩ := h offset
  obtain ⟨last, hlast⟩ := hnext behind
  exact ⟨last, (bind_of_ok hreader).trans hlast⟩

/-- A reader may look at how many bytes were taken, if only for its errors. -/
theorem get {next : Input → Reader α} {value : α}
    (h : ∀ offset, Takes (next ⟨offset, text⟩) text value rest) :
    Takes (MonadState.get >>= next) text value rest := fun offset => h offset offset

theorem leads {reader : Reader α} {value : α} (h : Takes reader text value rest)
    (next : α → Reader β) : Leads (reader >>= next) text (next value) rest := fun offset => by
  obtain ⟨behind, hreader⟩ := h offset
  exact ⟨behind, bind_of_ok hreader⟩

end Takes

namespace Leads

theorem trans {reader next end' : Reader α} {between : List Char} (h : Leads reader text next between)
    (hnext : Leads next between end' rest) : Leads reader text end' rest := fun offset => by
  obtain ⟨behind, hreader⟩ := h offset
  obtain ⟨last, hlast⟩ := hnext behind
  exact ⟨last, hreader.trans hlast⟩

theorem takes {reader next : Reader α} {between : List Char} {value : α}
    (h : Leads reader text next between) (hnext : Takes next between value rest) :
    Takes reader text value rest := fun offset => by
  obtain ⟨behind, hreader⟩ := h offset
  obtain ⟨last, hlast⟩ := hnext behind
  exact ⟨last, hreader.trans hlast⟩

end Leads

namespace Reader

theorem takes_peek (text : List Char) : Takes peek text text.head? text :=
  fun offset => ⟨offset, rfl⟩

theorem takes_advance (c : Char) (rest : List Char) : Takes advance (c :: rest) () rest :=
  fun offset => ⟨offset + c.utf8Size, rfl⟩

theorem takes_rounds (text : List Char) : Takes rounds text (text.length + 1) text :=
  fun offset => ⟨offset, rfl⟩

theorem takes_blanks (hblank : Blank blank) (hrest : ∀ c ∈ rest.head?, isBlank c = false) :
    Takes blanks (blank ++ rest) () rest := by
  intro offset
  refine ⟨offset + blank.length, ?_⟩
  unfold blanks
  simp only [takeWhile_front hblank hrest, List.drop_left]

/-- The next token, behind any blanks, is the next character that is seen. -/
theorem takes_peekPastBlanks (hblank : Blank blank) (hc : isBlank c = false) (rest : List Char) :
    Takes peekPastBlanks (blank ++ c :: rest) (some c) (c :: rest) := by
  refine (takes_blanks hblank fun other hother => ?_).bind (takes_peek (c :: rest))
  cases hother
  exact hc

theorem takes_peekPastBlanks_end (hblank : Blank blank) : Takes peekPastBlanks blank none [] := by
  have hblanks := takes_blanks hblank fun c (h : c ∈ ([] : List Char).head?) => nomatch h
  rw [List.append_nil] at hblanks
  exact hblanks.bind (takes_peek [])

theorem takes_literal : ∀ (word rest : List Char), Takes (literal word) (word ++ rest) () rest
  | [], rest => Takes.pure () rest
  | c :: word, rest => by
    refine (takes_peek (c :: word ++ rest)).bind ?_
    show Takes (if c == c then _ else _) _ _ _
    rw [if_pos (beq_self_eq_true c)]
    exact (takes_advance c _).bind (takes_literal word rest)

end Reader

end StructVault.Json
