import Eligibility.Condition.ParseError

/-!
# Reading along tokens

A reader takes tokens from the front of those that are pending and answers with a value or a fault.
It never puts tokens back: what it leaves is always an end part of what it got, also after a fault.
This is part of the type, so whatever is put together from readers has it, and loops over tokens
end.

Main statements: the equations `run_pure`, `run_fail`, `run_bind`, `run_peek`, `run_next_nil`,
`run_next_cons` and `run_nested`.
-/

namespace Eligibility

/-- Where a reader stands. -/
structure Cursor where
  /-- The tokens that are not taken yet. -/
  pending : List Token
  /-- The number of parentheses that are open here. -/
  depth : Nat
deriving DecidableEq, Repr

/-- Takes tokens and answers with a value or a fault. -/
structure TokenReader (α : Type) where
  /-- The answer at a cursor and the cursor behind the tokens taken. -/
  run : Cursor → Except ParseError α × Cursor
  /-- Tokens are only taken from the front. -/
  suffix : ∀ cursor, (run cursor).2.pending <:+ cursor.pending

namespace TokenReader

variable {α β : Type}

/-- Takes nothing and answers with a value. -/
protected def pure (value : α) : TokenReader α where
  run cursor := (.ok value, cursor)
  suffix _ := List.suffix_refl _

/-- Takes nothing and answers with a fault. -/
def fail (e : ParseError) : TokenReader α where
  run cursor := (.error e, cursor)
  suffix _ := List.suffix_refl _

/-- Reads once, and goes on as the value says unless there was a fault. -/
protected def bind (reader : TokenReader α) (next : α → TokenReader β) : TokenReader β where
  run cursor :=
    match reader.run cursor with
    | (.ok value, after) => (next value).run after
    | (.error e, after) => (.error e, after)
  suffix cursor := by
    have h := reader.suffix cursor
    split <;> rename_i hrun <;> rw [hrun] at h
    · exact ((next _).suffix _).trans h
    · exact h

instance : Monad TokenReader where
  pure := TokenReader.pure
  bind := TokenReader.bind

/-- The next token, which stays where it is. -/
def peek : TokenReader (Option Token) where
  run cursor := (.ok cursor.pending.head?, cursor)
  suffix _ := List.suffix_refl _

/-- Takes the next token; there must be one. -/
def next : TokenReader Token where
  run cursor :=
    match cursor.pending with
    | [] => (.error .unexpectedEnd, cursor)
    | token :: rest => (.ok token, { cursor with pending := rest })
  suffix cursor := by
    split
    · exact List.suffix_refl _
    · rename_i hpending
      simp [hpending]

/-- Reads inside one more parenthesis, which is counted as open until the reader is done, whether it
answers with a value or with a fault. -/
def nested (reader : TokenReader α) : TokenReader α where
  run cursor :=
    let (answer, after) := reader.run { cursor with depth := cursor.depth + 1 }
    (answer, { after with depth := after.depth - 1 })
  suffix cursor := reader.suffix { cursor with depth := cursor.depth + 1 }

/-! ### Equations -/

/-- A value takes no token. -/
@[simp] theorem run_pure (value : α) (cursor : Cursor) :
    (pure value : TokenReader α).run cursor = (.ok value, cursor) := rfl

/-- A fault takes no token. -/
@[simp] theorem run_fail (e : ParseError) (cursor : Cursor) :
    (fail e : TokenReader α).run cursor = (.error e, cursor) := rfl

/-- The second reader starts where the first one ends, unless that one fails. -/
theorem run_bind (reader : TokenReader α) (next : α → TokenReader β) (cursor : Cursor) :
    (reader >>= next).run cursor =
      match reader.run cursor with
      | (.ok value, after) => (next value).run after
      | (.error e, after) => (.error e, after) := rfl

/-- Looking at the next token takes none. -/
@[simp] theorem run_peek (cursor : Cursor) : peek.run cursor = (.ok cursor.pending.head?, cursor) :=
  rfl

/-- Behind the last token there is nothing to take. -/
@[simp] theorem run_next_nil (depth : Nat) :
    next.run ⟨[], depth⟩ = (.error .unexpectedEnd, ⟨[], depth⟩) := rfl

/-- The next token is taken. -/
@[simp] theorem run_next_cons (token : Token) (rest : List Token) (depth : Nat) :
    next.run ⟨token :: rest, depth⟩ = (.ok token, ⟨rest, depth⟩) := rfl

/-- Inside a parenthesis one more is open, and afterwards one less again. -/
theorem run_nested (reader : TokenReader α) (cursor : Cursor) :
    (nested reader).run cursor =
      ((reader.run { cursor with depth := cursor.depth + 1 }).1,
        { (reader.run { cursor with depth := cursor.depth + 1 }).2 with
          depth := (reader.run { cursor with depth := cursor.depth + 1 }).2.depth - 1 }) := rfl

end TokenReader

end Eligibility
