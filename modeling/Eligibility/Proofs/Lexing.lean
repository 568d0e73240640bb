import Eligibility.Proofs.NumberText
import Eligibility.Token.Lexer

/-!
# What the lexer reads

`Fits kind characters rest` says, form by form, which characters make a token of a kind and where
such a token ends: a word where no character of a name follows, a number where no digit follows, and
`>` and `<` where no `=` follows.

* **One token** (`lexeme?_eq_some_iff`): the lexer takes a lexeme from the front of a text exactly
  when the lexeme fits there. Both directions go by the forms of tokens, and no other proof opens
  the scanners.
* **Many tokens** (`tokens_eq_ok_iff`): a text is read when tokens can be taken from it one by one
  until nothing but blanks is left. `Reads` is that run; runs behind each other make one run
  (`Reads.append`), and blanks in front of a run do not matter (`Reads.of_blanks`).
* **Tokens of a text** (`isFormed_of_tokenize`): all tokens of a text have the form of their kind,
  and no name among them is a keyword, since a keyword that does not end its word is followed by a
  character of no token.
-/

namespace Eligibility

open Text

namespace Lexeme

/-! ### The forms of tokens -/

/-- These characters make a token of this kind in front of these. -/
inductive Fits : Token.Kind → List Char → List Char → Prop
  | leftParen (rest : List Char) : Fits .leftParen ['('] rest
  | rightParen (rest : List Char) : Fits .rightParen [')'] rest
  /-- A comparator that could go on with `=` does not. -/
  | comparator {c : Comparator} {rest : List Char}
      (hstop : c = .greater ∨ c = .less → rest.head? ≠ some '=') :
      Fits (.comparator c) c.symbol.toList rest
  /-- A keyword ends where no character of a word follows. -/
  | connective {c : Connective} {word rest : List Char} (hword : isNameChars word = true)
      (hkeyword : connective? word = some c) (hstop : EndsAt isWord rest) :
      Fits (.connective c) word rest
  /-- A name ends where no character of a name follows. -/
  | name {word rest : List Char} (hword : isNameChars word = true)
      (hkeyword : connective? word = none ∨ ¬ EndsAt isWord rest)
      (hstop : EndsAt isNameRest rest) : Fits .name word rest
  /-- A number takes all its digits, and a point with all digits behind it. -/
  | number {whole fraction rest : List Char} (hwhole : AllDigits whole) (hne : whole ≠ [])
      (hfraction : AllDigits fraction) (hstop : EndsAt Char.isDigit rest)
      (hpoint : fraction = [] → rest.head? = some '.' → EndsAt Char.isDigit rest.tail) :
      Fits .number (whole ++ pointed fraction) rest
  /-- A text goes up to the next quote of its kind. -/
  | text {quote : Char} {body rest : List Char} (hquote : quote = '"' ∨ quote = '\'')
      (hbody : quote ∉ body) : Fits .text (quote :: (body ++ [quote])) rest

/-- A word does not go on exactly where it ends. -/
theorem goesOn_eq_false_iff {rest : List Char} : goesOn rest = false ↔ EndsAt isWord rest := by
  cases rest <;> simp [goesOn]

/-- A name ends where a word does. -/
theorem endsAt_isNameRest {rest : List Char} (h : EndsAt isWord rest) : EndsAt isNameRest rest := by
  intro c hc
  rw [← Bool.not_eq_true]
  intro hrest
  exact absurd (isWord_of_isNameRest hrest) (by simp [h c hc])

/-- A word names the connective whose keyword it is in upper case. -/
theorem connective?_eq_some_iff {text : String} {c : Connective} :
    connective? text.toList = some c ↔ upperCase text = c.keyword := by
  show Connective.ofExactKeyword? (upperCase text) = some c ↔ _
  constructor
  · intro h
    exact (Connective.keyword_of_ofExactKeyword? h).symm
  · intro h
    rw [h, Connective.ofExactKeyword?_keyword]

/-- A run that begins as a name does is a name. -/
theorem isNameChars_takeWhile {c : Char} (h : isNameStart c = true) (cs : List Char) :
    isNameChars ((c :: cs).takeWhile isNameRest) = true := by
  have hall : (cs.takeWhile isNameRest).all isNameRest = true := List.all_takeWhile
  simp [isNameChars, isNameRest_of_isNameStart h, h, hall]

/-! ### What is taken fits -/

/-- The word at the front of a text fits there. -/
theorem fits_word {c : Char} (h : isNameStart c = true) (cs : List Char) :
    Fits (word (c :: cs)).kind (word (c :: cs)).characters (word (c :: cs)).rest := by
  have hword := isNameChars_takeWhile h cs
  have hstop := endsAt_dropWhile isNameRest (c :: cs)
  simp only [word, wordKind]
  split
  · rename_i keyword hkeyword
    split
    · rename_i hgoes
      apply Fits.name hword (.inr _) hstop
      rw [← goesOn_eq_false_iff, hgoes]
      simp
    · rename_i hgoes
      exact .connective hword hkeyword (goesOn_eq_false_iff.1 (by simpa using hgoes))
  · rename_i hkeyword
    exact .name hword (.inl hkeyword) hstop

/-- A run of digits consists of digits. -/
theorem allDigits_takeWhile (cs : List Char) : AllDigits (cs.takeWhile Char.isDigit) :=
  List.all_eq_true.1 List.all_takeWhile

/-- The number at the front of a text fits there. -/
theorem fits_number {c : Char} (h : c.isDigit = true) (cs : List Char) :
    Fits (number (c :: cs)).kind (number (c :: cs)).characters (number (c :: cs)).rest := by
  have hwhole := allDigits_takeWhile (c :: cs)
  have hne : (c :: cs).takeWhile Char.isDigit ≠ [] := by simp [h]
  unfold number
  simp only
  split
  · rename_i hpoint
    have := Fits.number hwhole hne (allDigits_takeWhile _)
      (endsAt_dropWhile Char.isDigit ((c :: cs).dropWhile Char.isDigit).tail)
      (fun hfraction => absurd hfraction hpoint.2)
    rwa [pointed, if_neg hpoint.2] at this
  · rename_i hpoint
    have hnone : AllDigits [] := by simp [AllDigits]
    have := Fits.number hwhole hne hnone (endsAt_dropWhile Char.isDigit (c :: cs))
      (fun _ hhead => takeWhile_eq_nil_iff.1 (by simpa [hhead] using hpoint))
    rwa [pointed, if_pos rfl, List.append_nil] at this

/-- The text at the front of a text fits there. -/
theorem fits_of_quoted? {quote : Char} (hquote : quote = '"' ∨ quote = '\'') {cs : List Char}
    {l : Lexeme} (h : quoted? quote cs = some l) : Fits l.kind l.characters l.rest := by
  unfold quoted? at h
  split at h
  · cases h
    apply Fits.text hquote
    intro hmem
    have hall : (cs.takeWhile (· != quote)).all (· != quote) = true := List.all_takeWhile
    simpa using List.all_eq_true.1 hall quote hmem
  · cases h

/-- The symbol at the front of a text fits there. -/
theorem fits_of_symbol? {cs : List Char} {l : Lexeme} (h : symbol? cs = some l) :
    Fits l.kind l.characters l.rest := by
  have hne : ∀ rest : List Char, (∀ back, rest = '=' :: back → False) → rest.head? ≠ some '=' := by
    rintro rest hrest hhead
    obtain ⟨back, rfl⟩ := List.head?_eq_some_iff.1 hhead
    exact hrest back rfl
  unfold symbol? at h
  split at h
  · cases h; exact .leftParen _
  · cases h; exact .rightParen _
  · cases h; exact .comparator (c := .greaterEqual) (by simp)
  · cases h; exact .comparator (c := .lessEqual) (by simp)
  · cases h; exact .comparator (c := .notEqual) (by simp)
  · rename_i hrest
    cases h
    exact .comparator (c := .greater) fun _ => hne _ hrest
  · rename_i hrest
    cases h
    exact .comparator (c := .less) fun _ => hne _ hrest
  · cases h; exact .comparator (c := .equal) (by simp)
  · cases h

/-- Any lexeme fits where it was taken. -/
theorem fits_of_lexeme? {cs : List Char} {l : Lexeme} (h : lexeme? cs = some l) :
    Fits l.kind l.characters l.rest := by
  rcases cs with _ | ⟨c, cs⟩
  · cases h
  rw [lexeme?] at h
  split at h
  · rename_i hstart
    cases h
    exact fits_word hstart cs
  · split at h
    · rename_i hdigit
      cases h
      exact fits_number hdigit cs
    · split at h
      · rename_i hquote
        exact fits_of_quoted? hquote h
      · exact fits_of_symbol? h

/-! ### What fits is taken -/

/-- A word that ends as a name does is found by looking for its end. -/
theorem word_append {cs rest : List Char} (hword : isNameChars cs = true)
    (hstop : EndsAt isNameRest rest) :
    lexeme? (cs ++ rest) = some ⟨wordKind cs rest, cs, rest⟩ := by
  rcases cs with _ | ⟨c, cs⟩
  · cases hword
  simp only [isNameChars, Bool.and_eq_true, List.all_eq_true] at hword
  obtain ⟨hstart, hothers⟩ := hword
  have hall : ∀ d ∈ c :: cs, isNameRest d = true := by
    rintro d (_ | ⟨_, hd⟩)
    · exact isNameRest_of_isNameStart hstart
    · exact hothers d hd
  rw [List.cons_append, lexeme?, if_pos hstart, ← List.cons_append, word,
    takeWhile_front hall hstop, dropWhile_front hall hstop]

/-- Digits with a point are found by looking for their end. -/
theorem number_append {whole fraction rest : List Char} (hwhole : AllDigits whole)
    (hne : whole ≠ []) (hfraction : AllDigits fraction) (hstop : EndsAt Char.isDigit rest)
    (hpoint : fraction = [] → rest.head? = some '.' → EndsAt Char.isDigit rest.tail) :
    lexeme? (whole ++ pointed fraction ++ rest) =
      some ⟨.number, whole ++ pointed fraction, rest⟩ := by
  obtain ⟨first, others, rfl⟩ := List.exists_cons_of_ne_nil hne
  have hfirst : first.isDigit = true := hwhole first List.mem_cons_self
  have hbehind : EndsAt Char.isDigit (pointed fraction ++ rest) := by
    unfold pointed
    split
    · exact hstop
    · simp
  rw [List.append_assoc, List.cons_append, lexeme?, isNameStart_of_isDigit hfirst, hfirst,
    ← List.cons_append, number, takeWhile_front hwhole hbehind, dropWhile_front hwhole hbehind]
  rcases fraction with _ | ⟨digit, fraction⟩
  · have hnone : ¬ (rest.head? = some '.' ∧ rest.tail.takeWhile Char.isDigit ≠ []) :=
      fun h => h.2 (takeWhile_eq_nil_iff.2 (hpoint rfl h.1))
    simp only [pointed, if_true, List.nil_append, List.append_nil, if_neg hnone]
    rfl
  · have htake := takeWhile_front hfraction hstop
    have hdrop := dropWhile_front hfraction hstop
    simp only [List.cons_append] at htake hdrop
    simp [pointed, htake, hdrop]

/-- A text between quotes is found by looking for its second quote. -/
theorem quoted?_append {quote : Char} {body : List Char} (hbody : quote ∉ body)
    (rest : List Char) :
    quoted? quote (body ++ quote :: rest) = some ⟨.text, quote :: (body ++ [quote]), rest⟩ := by
  have hall : ∀ c ∈ body, (c != quote) = true := by
    rintro c hc
    rw [bne_iff_ne]
    rintro rfl
    exact hbody hc
  have hstop : EndsAt (· != quote) (quote :: rest) := by simp
  rw [quoted?, dropWhile_front hall hstop, takeWhile_front hall hstop]

/-- A comparator is found, the longer one of two that start alike. -/
theorem comparator_append {c : Comparator} {rest : List Char}
    (hstop : c = .greater ∨ c = .less → rest.head? ≠ some '=') :
    lexeme? (c.symbol.toList ++ rest) = some ⟨.comparator c, c.symbol.toList, rest⟩ := by
  cases c with
  | greater =>
    have hne : rest.head? ≠ some '=' := hstop (.inl rfl)
    show symbol? ('>' :: rest) = _
    rw [symbol?]
    · rfl
    · rintro back rfl
      exact hne rfl
  | less =>
    have hne : rest.head? ≠ some '=' := hstop (.inr rfl)
    show symbol? ('<' :: rest) = _
    rw [symbol?]
    · rfl
    · rintro back rfl
      exact hne rfl
  | _ => rfl

/-- What fits at the front of a text is taken from it. -/
theorem lexeme?_of_fits {kind : Token.Kind} {cs rest : List Char} (h : Fits kind cs rest) :
    lexeme? (cs ++ rest) = some ⟨kind, cs, rest⟩ := by
  cases h with
  | leftParen => rfl
  | rightParen => rfl
  | comparator hstop => exact comparator_append hstop
  | connective hword hkeyword hstop =>
    rw [word_append hword (endsAt_isNameRest hstop), wordKind, hkeyword]
    simp [goesOn_eq_false_iff.2 hstop]
  | name hword hkeyword hstop =>
    rw [word_append hword hstop, wordKind]
    rcases hkeyword with hnone | hgoes
    · rw [hnone]
    · have hgoes : goesOn rest = true := by
        rwa [← Bool.not_eq_false, goesOn_eq_false_iff]
      rw [hgoes]
      split <;> rfl
  | number hwhole hne hfraction hstop hpoint =>
    exact number_append hwhole hne hfraction hstop hpoint
  | @text quote body _ hquote hbody =>
    have hforms : isNameStart quote = false ∧ quote.isDigit = false := by
      rcases hquote with rfl | rfl <;> decide
    rw [List.cons_append, List.append_assoc, List.singleton_append, lexeme?, hforms.1, hforms.2]
    simp only [hquote, if_true]
    exact quoted?_append hbody rest

/-- **What is taken is what fits.** -/
theorem lexeme?_eq_some_iff {cs : List Char} {l : Lexeme} :
    lexeme? cs = some l ↔ cs = l.characters ++ l.rest ∧ Fits l.kind l.characters l.rest := by
  constructor
  · intro h
    exact ⟨(splits_of_lexeme? h).1.symm, fits_of_lexeme? h⟩
  · rintro ⟨rfl, h⟩
    exact lexeme?_of_fits h

/-! ### Where a token starts -/

/-- The characters other than those of names at which a token can start. -/
def symbols : List Char := ['(', ')', '>', '<', '!', '=', '"', '\'']

/-- A token starts with a character of a name or with a symbol. -/
theorem Fits.first {kind : Token.Kind} {cs rest : List Char} (h : Fits kind cs rest) :
    ∃ c others, cs = c :: others ∧ (isNameRest c = true ∨ c ∈ symbols) := by
  have hname : ∀ {word}, isNameChars word = true →
      ∃ c others, word = c :: others ∧ (isNameRest c = true ∨ c ∈ symbols) := by
    rintro (_ | ⟨c, others⟩) hword
    · cases hword
    · simp only [isNameChars, Bool.and_eq_true] at hword
      exact ⟨c, others, rfl, .inl (isNameRest_of_isNameStart hword.1)⟩
  cases h with
  | leftParen => exact ⟨_, _, rfl, .inr (by decide)⟩
  | rightParen => exact ⟨_, _, rfl, .inr (by decide)⟩
  | @comparator c _ _ => cases c <;> exact ⟨_, _, rfl, .inr (by decide)⟩
  | connective hword _ _ => exact hname hword
  | name hword _ _ => exact hname hword
  | @number whole fraction _ hwhole hne _ _ _ =>
    obtain ⟨first, others, rfl⟩ := List.exists_cons_of_ne_nil hne
    have hfirst : first.isDigit = true := hwhole first List.mem_cons_self
    exact ⟨first, _, rfl, .inl (isNameRest_iff.2 (.inr hfirst))⟩
  | text hquote _ => exact ⟨_, _, rfl, .inr (by rcases hquote with rfl | rfl <;> decide)⟩

/-- No symbol is blank. -/
theorem isBlank_of_mem_symbols {c : Char} (h : c ∈ symbols) : isBlank c = false := by
  have hall : symbols.all (fun d => !isBlank d) = true := by decide
  simpa using List.all_eq_true.1 hall c h

/-- No symbol belongs to a word. -/
theorem isWord_of_mem_symbols {c : Char} (h : c ∈ symbols) : isWord c = false := by
  have hall : symbols.all (fun d => !isWord d) = true := by decide
  simpa using List.all_eq_true.1 hall c h

/-- No token starts with a blank. -/
theorem Fits.endsAt_isBlank {kind : Token.Kind} {cs rest : List Char} (h : Fits kind cs rest) :
    EndsAt isBlank (cs ++ rest) := by
  obtain ⟨c, others, rfl, hrest | hsymbol⟩ := h.first
  · exact (endsAt_cons _ _ _).2 (isBlank_of_isNameRest hrest)
  · exact (endsAt_cons _ _ _).2 (isBlank_of_mem_symbols hsymbol)

/-- A token that does not start with a character of a name does not start with one of a word. -/
theorem Fits.endsAt_isWord {kind : Token.Kind} {cs rest : List Char} (h : Fits kind cs rest)
    (hname : EndsAt isNameRest (cs ++ rest)) : EndsAt isWord (cs ++ rest) := by
  obtain ⟨c, others, rfl, hrest | hsymbol⟩ := h.first
  · rw [List.cons_append, endsAt_cons, hrest] at hname
    cases hname
  · exact (endsAt_cons _ _ _).2 (isWord_of_mem_symbols hsymbol)

end Lexeme

/-! ### One token after the other -/

namespace Lexer

/-- What fits in front of the lexer is the next token. -/
theorem next_of_fits {kind : Token.Kind} {cs rest : List Char} (h : Lexeme.Fits kind cs rest)
    (position : Nat) :
    next ⟨cs ++ rest, position⟩ =
      (some (.ok ⟨kind, String.ofList cs, position⟩), ⟨rest, position + byteLength cs⟩) := by
  obtain ⟨c, others, rfl, -⟩ := h.first
  have hskip : skipBlanks ⟨c :: others ++ rest, position⟩ = ⟨c :: others ++ rest, position⟩ := by
    have hblank : isBlank c = false := (endsAt_cons _ _ _).1 h.endsAt_isBlank
    simp [skipBlanks, hblank]
  rw [next, hskip]
  simp only [Lexeme.lexeme?_of_fits h]
  rfl

/-- Blanks in front of the next token only count for its place. -/
theorem next_of_blanks {front : List Char} (h : ∀ c ∈ front, isBlank c = true) (back : List Char)
    (position : Nat) :
    next ⟨front ++ back, position⟩ = next ⟨back, position + byteLength front⟩ := by
  have hskip : skipBlanks ⟨front ++ back, position⟩ =
      skipBlanks ⟨back, position + byteLength front⟩ := by
    simp only [skipBlanks, List.dropWhile_append_of_pos h, List.takeWhile_append_of_pos h,
      byteLength_append, Nat.add_assoc]
  simp only [next, hskip]

/-- There is no next token where only blanks are left. -/
theorem next_eq_none_iff {lexer : Lexer} :
    lexer.next.1 = none ↔ ∀ c ∈ lexer.rest, isBlank c = true := by
  rw [← dropBlank_eq_nil_iff, next]
  split
  · rename_i hnil
    exact ⟨fun _ => hnil, fun _ => rfl⟩
  · rename_i hcons
    have hne : lexer.rest.dropWhile isBlank ≠ [] := by
      intro hnil
      cases hcons.symm.trans hnil
    split <;> simp [hne]

/-- The next token is a lexeme behind the blanks in front of it. -/
theorem of_next {lexer after : Lexer} {token : Token}
    (h : lexer.next = (some (.ok token), after)) :
    lexer.rest.dropWhile isBlank = token.text.toList ++ after.rest ∧
      Lexeme.Fits token.kind token.text.toList after.rest := by
  rw [next] at h
  split at h
  · cases h
  · split at h
    · rename_i hl
      cases h
      rw [String.toList_ofList]
      exact Lexeme.lexeme?_eq_some_iff.1 hl
    · cases h

/-- The next token is a lexeme behind blanks, at the place behind these. -/
theorem exists_of_next {lexer after : Lexer} {token : Token}
    (h : lexer.next = (some (.ok token), after)) :
    ∃ front, (∀ c ∈ front, isBlank c = true) ∧
      Lexeme.Fits token.kind token.text.toList after.rest ∧
      lexer.rest = front ++ (token.text.toList ++ after.rest) ∧
      token.position = lexer.position + byteLength front ∧
      after.position = token.position + byteLength token.text.toList := by
  obtain ⟨hsplit, hfits⟩ := of_next h
  have hblank : ∀ c ∈ lexer.rest.takeWhile isBlank, isBlank c = true :=
    List.all_eq_true.1 List.all_takeWhile
  have hrest : lexer.rest = lexer.rest.takeWhile isBlank ++ (token.text.toList ++ after.rest) := by
    rw [← hsplit, List.takeWhile_append_dropWhile]
  have hnext := next_of_blanks hblank (token.text.toList ++ after.rest) lexer.position
  rw [← hrest, next_of_fits hfits, h] at hnext
  simp only [Prod.mk.injEq, Option.some.injEq, Except.ok.injEq] at hnext
  obtain ⟨htoken, hafter⟩ := hnext
  have hposition : token.position = _ := congrArg Token.position htoken
  refine ⟨_, hblank, hfits, hrest, hposition, ?_⟩
  rw [hposition]
  exact congrArg Lexer.position hafter

/-- These tokens can be read one after the other, and this is what is left. -/
inductive Reads : Lexer → List Token → Lexer → Prop
  | done (lexer : Lexer) : Reads lexer [] lexer
  | token {lexer between last : Lexer} {token : Token} {tokens : List Token}
      (h : lexer.next = (some (.ok token), between)) (hrest : Reads between tokens last) :
      Reads lexer (token :: tokens) last

/-- One token is read where it fits. -/
theorem Reads.one {kind : Token.Kind} {cs rest : List Char} (h : Lexeme.Fits kind cs rest)
    (position : Nat) :
    Reads ⟨cs ++ rest, position⟩ [⟨kind, String.ofList cs, position⟩]
      ⟨rest, position + byteLength cs⟩ :=
  .token (next_of_fits h position) (.done _)

/-- Tokens are read behind tokens. -/
theorem Reads.append {first middle last : Lexer} {front back : List Token}
    (hfront : Reads first front middle) (hback : Reads middle back last) :
    Reads first (front ++ back) last := by
  induction hfront with
  | done => exact hback
  | token h _ ih => exact .token h (ih hback)

/-- Tokens are read behind blanks. -/
theorem Reads.of_blanks {front : List Char} (h : ∀ c ∈ front, isBlank c = true) {back : List Char}
    {position : Nat} {tokens : List Token} {last : Lexer} (hne : tokens ≠ [])
    (hreads : Reads ⟨back, position + byteLength front⟩ tokens last) :
    Reads ⟨front ++ back, position⟩ tokens last := by
  cases hreads with
  | done => exact absurd rfl hne
  | token hnext hrest =>
    rw [← next_of_blanks h] at hnext
    exact .token hnext hrest

/-- What is read is collected. -/
theorem Reads.collect_eq {lexer last : Lexer} {tokens : List Token} (h : Reads lexer tokens last)
    (done : List Token) : collect done lexer = collect (tokens.reverse ++ done) last := by
  induction h generalizing done with
  | done => rfl
  | token hnext _ ih =>
    rw [collect_of_next_ok hnext, ih, List.reverse_cons, List.append_assoc, List.singleton_append]

/-- What is collected is read, and only blanks are left. -/
theorem reads_of_collect {done tokens : List Token} {lexer : Lexer}
    (h : collect done lexer = .ok tokens) :
    ∃ read last, tokens = done.reverse ++ read ∧ Reads lexer read last ∧
      ∀ c ∈ last.rest, isBlank c = true := by
  fun_induction collect done lexer with
  | case1 done lexer after hnext =>
    cases h
    refine ⟨[], lexer, by simp, .done lexer, ?_⟩
    rw [← next_eq_none_iff, hnext]
  | case2 => cases h
  | case3 done lexer token after hnext ih =>
    obtain ⟨read, last, rfl, hreads, hblank⟩ := ih h
    exact ⟨token :: read, last, by simp, .token hnext hreads, hblank⟩

/-- **A text is read when tokens can be read until only blanks are left.** -/
theorem tokens_eq_ok_iff {lexer : Lexer} {tokens : List Token} :
    lexer.tokens = .ok tokens ↔
      ∃ last, Reads lexer tokens last ∧ ∀ c ∈ last.rest, isBlank c = true := by
  constructor
  · intro h
    obtain ⟨read, last, rfl, hreads, hblank⟩ := reads_of_collect h
    exact ⟨last, hreads, hblank⟩
  · rintro ⟨last, hreads, hblank⟩
    rcases hnext : last.next with ⟨found, after⟩
    have hnone : found = none := by
      rw [← next_eq_none_iff, hnext] at hblank
      exact hblank
    rw [Lexer.tokens, hreads.collect_eq, collect_of_next_none (hnone ▸ hnext)]
    simp

/-- A token ends a word where it ends a name, if more is read behind it up to blanks. -/
theorem Reads.endsAt_isWord {lexer last : Lexer} {tokens : List Token} (h : Reads lexer tokens last)
    (hblank : ∀ c ∈ last.rest, isBlank c = true) (hname : EndsAt isNameRest lexer.rest) :
    EndsAt isWord lexer.rest := by
  rcases hcs : lexer.rest with _ | ⟨c, cs⟩
  · exact endsAt_nil _
  rw [hcs] at hname
  by_cases hc : isBlank c = true
  · exact (endsAt_cons _ _ _).2 (isWord_of_isBlank hc)
  · cases h with
    | done => exact absurd (hblank c (by simp [hcs])) hc
    | token hnext _ =>
      obtain ⟨heq, hfits⟩ := of_next hnext
      rw [hcs, List.dropWhile_cons_of_neg hc] at heq
      rw [heq] at hname ⊢
      exact hfits.endsAt_isWord hname

end Lexer

/-! ### The tokens of a text -/

/-- A token has the form of its kind, and is no keyword if it is a name. -/
def Token.IsFormed (token : Token) : Prop :=
  (∃ rest, Lexeme.Fits token.kind token.text.toList rest) ∧
    (token.kind = .name → Lexeme.connective? token.text.toList = none)

/-- Tokens that are read up to blanks are formed. -/
theorem Lexer.Reads.isFormed {lexer last : Lexer} {tokens : List Token}
    (h : Reads lexer tokens last) (hblank : ∀ c ∈ last.rest, isBlank c = true) :
    ∀ token ∈ tokens, token.IsFormed := by
  induction h with
  | done => simp
  | @token lexer between last token tokens hnext hrest ih =>
    have hfits := (of_next hnext).2
    -- a keyword that was taken as a name would be followed by a character of no token
    have hkeyword : token.kind = .name → Lexeme.connective? token.text.toList = none := by
      intro hkind
      rw [hkind] at hfits
      cases hfits with
      | name _ hkeyword hstop =>
        exact hkeyword.resolve_right (not_not_intro (hrest.endsAt_isWord hblank hstop))
    rintro found (_ | ⟨_, hfound⟩)
    · exact ⟨⟨_, hfits⟩, hkeyword⟩
    · exact ih hblank found hfound

/-- All tokens of a text are formed. -/
theorem isFormed_of_tokenize {text : String} {tokens : List Token}
    (h : tokenize text = .ok tokens) : ∀ token ∈ tokens, token.IsFormed := by
  obtain ⟨last, hreads, hblank⟩ := Lexer.tokens_eq_ok_iff.1 h
  exact hreads.isFormed hblank

end Eligibility
