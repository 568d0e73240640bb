import Eligibility.Proofs.JsonDepth
import Eligibility.Proofs.JsonNumber

/-!
# JSON text is read back

A value is written compactly and read back as itself, unless it has more arrays and objects inside
one another than may be read.

* **Strings** (`stringRest?_quoted`): every character is escaped so that it is read as itself.
* **Order** (`IsOrdered`): members that stand in the order of their names stay where they are when
  they are read.
* **Values** (`value?_compact`): by induction on the value, in front of everything that does not go
  on with a number. Where a value is too deep, what stands before the part that is too deep is read
  and the part is refused.
* **Documents** (`ofText?_compact`): the text of a value is read as the value or not at all.
-/

namespace Eligibility

namespace Json

/-! ### Strings -/

/-- The digits of a control character are read as its code point. -/
theorem hexUnit?_twoHexDigits {n : Nat} (h : n < 32) :
    hexUnit? '0' '0' (Nat.digitChar (n / 16)) (Nat.digitChar (n % 16)) = some n := by
  have hall : ∀ n < 32,
      hexUnit? '0' '0' (Nat.digitChar (n / 16)) (Nat.digitChar (n % 16)) = some n := by decide
  exact hall n h

/-- A character that is escaped is read as itself. -/
theorem stringRest?_escaped (done : List Char) (c : Char) (rest : List Char) :
    stringRest? done (escaped c ++ rest) = stringRest? (c :: done) rest := by
  unfold escaped
  split
  · rename_i h
    simp [h, stringRest?, escapedChar?]
  split
  · rename_i h
    simp [h, stringRest?, escapedChar?]
  split
  · rename_i h
    simp [h, stringRest?, escapedChar?]
  split
  · rename_i h
    simp [h, stringRest?, escapedChar?]
  split
  · rename_i h
    simp [h, stringRest?, escapedChar?]
  split
  · rename_i h
    simp [h, stringRest?, escapedChar?]
  split
  · rename_i h
    simp [h, stringRest?, escapedChar?]
  split
  · rename_i h
    have hunit : ofUnit? c.toNat = some c := by
      rw [ofUnit?, if_neg (by omega), Char.ofNat_toNat]
    simp [twoHexDigits, stringRest?, hexUnit?_twoHexDigits h, hunit]
  · rename_i hquote hslash _ _ _ _ _ hcontrol
    rw [List.singleton_append, stringRest?]
    · simp [hslash, hcontrol]
    · exact hquote
    · simp [hslash]
    · simp [hslash]

/-- What is written between quotation marks is read as it was. -/
theorem stringRest?_quoted (text : String) (rest : List Char) :
    stringRest? [] (text.toList.flatMap escaped ++ '"' :: rest) = some (text, rest) := by
  have hread : ∀ cs done, stringRest? done (cs.flatMap escaped ++ '"' :: rest) =
      some (String.ofList (done.reverse ++ cs), rest) := by
    intro cs
    induction cs with
    | nil =>
      intro done
      simp [stringRest?]
    | cons c cs ih =>
      intro done
      rw [List.flatMap_cons, List.append_assoc, stringRest?_escaped, ih]
      simp
  rw [hread, List.reverse_nil, List.nil_append, String.ofList_toList]

/-! ### Order -/

/-- The second name follows the first. -/
def Follows (earlier later : String) : Prop := compare later earlier = .gt

instance : DecidableRel Follows :=
  fun earlier later => inferInstanceAs (Decidable (compare later earlier = .gt))

mutual

/-- The members of all objects in a value stand in the order of their names. -/
def IsOrdered : Json → Prop
  | .array items => ItemsOrdered items
  | .object members => (members.map Prod.fst).Pairwise Follows ∧ MembersOrdered members
  | _ => True

@[inherit_doc IsOrdered]
def ItemsOrdered : List Json → Prop
  | [] => True
  | item :: rest => IsOrdered item ∧ ItemsOrdered rest

@[inherit_doc IsOrdered]
def MembersOrdered : Members → Prop
  | [] => True
  | (_, value) :: rest => IsOrdered value ∧ MembersOrdered rest

end

/-- A member whose name follows all others comes last. -/
theorem insertMember_of_follows {last : String × Json} {members : Members}
    (h : ∀ member ∈ members, Follows member.1 last.1) :
    insertMember last.1 last.2 members = members ++ [last] := by
  induction members with
  | nil => rfl
  | cons member rest ih =>
    obtain ⟨other, old⟩ := member
    have hfirst : compare last.1 other = .gt := h (other, old) List.mem_cons_self
    rw [insertMember, hfirst, List.cons_append,
      ← ih fun member hmember => h member (List.mem_cons_of_mem _ hmember)]

/-- Members that stand in order stay where they are. -/
theorem sortMembers_of_pairwise {members : Members}
    (h : (members.map Prod.fst).Pairwise Follows) : sortMembers members = members := by
  have hfold : ∀ (rest front : Members),
      (front ++ rest).Pairwise (fun earlier later => Follows earlier.1 later.1) →
      rest.foldl (fun sorted member => insertMember member.1 member.2 sorted) front =
        front ++ rest := by
    intro rest
    induction rest with
    | nil => exact fun front _ => (List.append_nil front).symm
    | cons member rest ih =>
      intro front hfront
      have hfollows : ∀ earlier ∈ front, Follows earlier.1 member.1 := fun earlier hearlier =>
        (List.pairwise_append.1 hfront).2.2 earlier hearlier member List.mem_cons_self
      have hsplit : front ++ member :: rest = front ++ [member] ++ rest := by simp
      rw [List.foldl_cons, insertMember_of_follows hfollows, hsplit]
      exact ih (front ++ [member]) (hsplit ▸ hfront)
  exact hfold members [] (List.pairwise_map.1 h)

/-! ### The first character of a text -/

/-- May a value start with this character? No blank may, and no bracket that closes. -/
def startsValue (c : Char) : Bool := !isSpace c && c != ']'

/-- A value starts with anything but a blank or the end of an array. -/
theorem startsValue_iff {c : Char} : startsValue c = true ↔ isSpace c = false ∧ c ≠ ']' := by
  simp [startsValue]

/-- May a number start with this character? -/
def startsNumber (c : Char) : Bool := c.isDigit || c == '-'

/-- What starts a number is not a character that does not. -/
theorem ne_of_startsNumber {c d : Char} (h : startsNumber c = true)
    (hd : startsNumber d = false) : c ≠ d := by
  rintro rfl
  rw [hd] at h
  cases h

/-- What starts a number starts a value. -/
theorem startsValue_of_startsNumber {c : Char} (h : startsNumber c = true) :
    startsValue c = true := by
  have hspace : c ≠ ' ' := ne_of_startsNumber h rfl
  have htab : c ≠ '\t' := ne_of_startsNumber h rfl
  have hline : c ≠ '\n' := ne_of_startsNumber h rfl
  have hreturn : c ≠ '\r' := ne_of_startsNumber h rfl
  refine startsValue_iff.2 ⟨?_, ne_of_startsNumber h rfl⟩
  simp [isSpace, hspace, htab, hline, hreturn]

/-- The text of a number starts with a digit or a minus sign. -/
theorem Number.exists_first (n : Number) :
    ∃ first others, n.text.toList = first :: others ∧ startsNumber first = true := by
  obtain ⟨⟨negative, whole, fraction, power, hwhole, hfraction⟩, htext, -⟩ := n.exists_parts
  cases negative with
  | true => exact ⟨'-', _, htext, rfl⟩
  | false =>
    rcases whole with _ | ⟨first, others⟩
    · cases hwhole
    · refine ⟨first, _, htext, ?_⟩
      rw [startsNumber, hwhole.allDigits first List.mem_cons_self, Bool.true_or]

/-- The text of a value starts with a character that is no blank and closes no array. -/
theorem exists_first (value : Json) :
    ∃ first others, value.compact.toList = first :: others ∧ startsValue first = true := by
  cases value with
  | null => exact ⟨'n', _, rfl, rfl⟩
  | boolean value => cases value <;> exact ⟨_, _, rfl, rfl⟩
  | number n =>
    obtain ⟨first, others, htext, hfirst⟩ := n.exists_first
    exact ⟨first, others, by rw [compact, htext], startsValue_of_startsNumber hfirst⟩
  | text value => exact ⟨'"', _, by simp [compact, quoted]; rfl, rfl⟩
  | array items => exact ⟨'[', _, by simp [compact]; rfl, rfl⟩
  | object members => exact ⟨'\x7b', _, by simp [compact, openBrace]; rfl, rfl⟩

/-- No blanks are skipped in front of a character that is none. -/
theorem skipSpace_of_first {c : Char} (h : isSpace c = false) (rest : List Char) :
    skipSpace (c :: rest) = c :: rest := List.dropWhile_cons_of_neg (by simp [h])

/-- In front of a value nothing is skipped. -/
theorem skipSpace_compact (value : Json) (rest : List Char) :
    skipSpace (value.compact.toList ++ rest) = value.compact.toList ++ rest := by
  obtain ⟨first, others, htext, hfirst⟩ := value.exists_first
  rw [htext, List.cons_append, skipSpace_of_first (startsValue_iff.1 hfirst).1]

/-- The text of items starts as a value does. -/
theorem exists_first_items (item : Json) (items : List Json) :
    ∃ first others, (compactItems (item :: items)).toList = first :: others ∧
      startsValue first = true := by
  obtain ⟨first, others, htext, hfirst⟩ := item.exists_first
  cases items with
  | nil => exact ⟨first, others, by rw [compactItems, htext], hfirst⟩
  | cons => exact ⟨first, _, by rw [compactItems]; simp [htext]; rfl, hfirst⟩

/-- The text of members starts with the quotation mark of a name. -/
theorem exists_first_members (member : String × Json) (members : Members) :
    ∃ others, (compactMembers (member :: members)).toList = '"' :: others := by
  obtain ⟨name, value⟩ := member
  cases members with
  | nil => exact ⟨_, by simp [compactMembers, quoted]; rfl⟩
  | cons => exact ⟨_, by simp [compactMembers, quoted]; rfl⟩

/-! ### Scalars -/

/-- What starts with no bracket is read as a scalar, with any bound. -/
theorem value?_of_scalar {cs : List Char} (h : startsBracket cs = false) (bound : Nat) :
    value? bound cs = scalar? cs := by
  cases bound <;> rw [value?, if_neg (by simp [h])]

/-- What starts as a number is read as one. -/
theorem scalar?_of_startsNumber {c : Char} (h : startsNumber c = true) (rest : List Char) :
    scalar? (c :: rest) = number? (c :: rest) := by
  rw [scalar?]
  · intro others heq
    exact ne_of_startsNumber h rfl (List.cons.inj heq).1
  · intro others heq
    exact ne_of_startsNumber h rfl (List.cons.inj heq).1
  · intro others heq
    exact ne_of_startsNumber h rfl (List.cons.inj heq).1
  · intro others heq
    exact ne_of_startsNumber h rfl (List.cons.inj heq).1

/-- A value without brackets is read with any bound. -/
theorem value?_of_depth_eq_zero {value : Json} (h : value.depth = 0) (bound : Nat)
    {rest : List Char} (hrest : EndsNumber rest) :
    value? bound (value.compact.toList ++ rest) =
      if value.depth ≤ bound then some (value, rest) else none := by
  rw [if_pos (h ▸ Nat.zero_le bound)]
  cases value with
  | null => exact value?_of_scalar rfl bound
  | boolean value => cases value <;> exact value?_of_scalar rfl bound
  | number n =>
    obtain ⟨first, others, htext, hfirst⟩ := n.exists_first
    have hread := number?_text n hrest
    rw [compact]
    rw [htext, List.cons_append] at hread ⊢
    have hbracket : first ≠ '[' := ne_of_startsNumber hfirst rfl
    have hbrace : first ≠ '\x7b' := ne_of_startsNumber hfirst rfl
    rw [value?_of_scalar (by simp [startsBracket, hbracket, hbrace]),
      scalar?_of_startsNumber hfirst, hread]
  | text value =>
    have htext : (compact (.text value)).toList ++ rest =
        '"' :: (value.toList.flatMap escaped ++ '"' :: rest) := by
      simp [compact, quoted]
    rw [htext, value?_of_scalar rfl, scalar?, stringRest?_quoted]
    rfl
  | array items => cases h
  | object members => cases h

/-! ### Arrays and objects -/

/-- No array or object is read when none may be opened. -/
theorem value?_zero_of_bracket {c : Char} (h : c = '[' ∨ c = '\x7b') (rest : List Char) :
    value? 0 (c :: rest) = none := by
  rw [value?, if_pos]
  rcases h with rfl | rfl <;> rfl

/-- When one may be opened, its parts are read with what is left of the bound. -/
theorem value?_succ_of_bracket {c : Char} (h : c = '[' ∨ c = '\x7b') (bound : Nat)
    (rest : List Char) :
    value? (bound + 1) (c :: rest) = bracketed? (value? bound) (c :: rest) := by
  rw [value?, if_pos]
  rcases h with rfl | rfl <;> rfl

/-- An array that does not close at once is read item by item. -/
theorem bracketed?_array (value : CharReader Json) {c : Char} (h : startsValue c = true)
    (rest : List Char) :
    bracketed? value ('[' :: c :: rest) =
      (items? value (c :: rest)).map fun (items, rest) => (.array items, rest) := by
  obtain ⟨hspace, hclosing⟩ := startsValue_iff.1 h
  rw [bracketed?, skipSpace_of_first hspace]
  split
  · rename_i heq
    exact absurd (List.cons.inj heq).1 hclosing
  · rfl

/-- An object that does not close at once is read member by member. -/
theorem bracketed?_object (value : CharReader Json) (rest : List Char) :
    bracketed? value ('\x7b' :: '"' :: rest) =
      (members? value ('"' :: rest)).map fun (members, rest) =>
        (.object (sortMembers members), rest) := by
  rw [bracketed?, skipSpace_of_first rfl]
  rfl

section Items

variable {value : CharReader Json} {cs rest : List Char} {item : Json}

/-- Items are refused when the first of them is. -/
theorem items?_of_none (h : value (skipSpace cs) = none) : items? value cs = none := by
  rw [items?, h]

/-- An item with a bracket behind it is the last one. -/
theorem items?_of_last (h : value (skipSpace cs) = some (item, ']' :: rest)) :
    items? value cs = some ([item], rest) := by
  rw [items?, h]
  rfl

/-- Behind an item with a comma the others are read. -/
theorem items?_of_comma (h : value (skipSpace cs) = some (item, ',' :: rest))
    (hlength : rest.length < cs.length) :
    items? value cs = (items? value rest).map fun (items, rest) => (item :: items, rest) := by
  rw [items?, h]
  simp only [skipSpace_of_first (show isSpace ',' = false from rfl)]
  rw [if_pos hlength]

end Items

section Members

variable {value : CharReader Json} {cs rest : List Char} {name : String} {member : Json}

/-- A name in front of its colon. -/
theorem quoted_colon (name : String) (cs : List Char) : (quoted name).toList ++ ':' :: cs =
    '"' :: (name.toList.flatMap escaped ++ '"' :: ':' :: cs) := by
  simp [quoted]

/-- Members are refused when the value of the first of them is. -/
theorem members?_of_none (h : value (skipSpace cs) = none) :
    members? value ((quoted name).toList ++ ':' :: cs) = none := by
  have hcolon : skipSpace (':' :: cs) = ':' :: cs := skipSpace_of_first rfl cs
  rw [quoted_colon, members?, skipSpace_of_first rfl]
  simp only [stringRest?_quoted, hcolon, h]

/-- A member with a brace behind it is the last one. -/
theorem members?_of_last (h : value (skipSpace cs) = some (member, '\x7d' :: rest)) :
    members? value ((quoted name).toList ++ ':' :: cs) = some ([(name, member)], rest) := by
  have hcolon : skipSpace (':' :: cs) = ':' :: cs := skipSpace_of_first rfl cs
  have hbrace : skipSpace ('\x7d' :: rest) = '\x7d' :: rest := skipSpace_of_first rfl rest
  rw [quoted_colon, members?, skipSpace_of_first rfl]
  simp only [stringRest?_quoted, hcolon, h, hbrace]

/-- Behind a member with a comma the others are read. -/
theorem members?_of_comma (h : value (skipSpace cs) = some (member, ',' :: rest))
    (hlength : rest.length ≤ cs.length) :
    members? value ((quoted name).toList ++ ':' :: cs) =
      (members? value rest).map fun (members, rest) => ((name, member) :: members, rest) := by
  have hcolon : skipSpace (':' :: cs) = ':' :: cs := skipSpace_of_first rfl cs
  have hcomma : skipSpace (',' :: rest) = ',' :: rest := skipSpace_of_first rfl rest
  have hless : rest.length < ((quoted name).toList ++ ':' :: cs).length := by
    rw [List.length_append, List.length_cons]
    omega
  rw [quoted_colon] at hless ⊢
  rw [members?, skipSpace_of_first rfl]
  simp only [stringRest?_quoted, hcolon, h, hcomma]
  rw [if_pos hless]

end Members

/-! ### Values -/

/-- A number ends in front of a comma and of a closing bracket. -/
theorem endsNumber_cons {c : Char} (h : c = ',' ∨ c = ']' ∨ c = '\x7d') (rest : List Char) :
    EndsNumber (c :: rest) := by
  intro d hd
  obtain rfl : c = d := Option.some.inj hd
  rcases h with rfl | rfl | rfl <;> decide

/-- An array is read back when its items are. -/
theorem value?_array {items : List Json} {rest : List Char}
    (hitems : items ≠ [] → ∀ bound,
      items? (value? bound) ((compactItems items).toList ++ ']' :: rest) =
        if itemsDepth items ≤ bound then some (items, rest) else none) (bound : Nat) :
    value? bound ((compact (.array items)).toList ++ rest) =
      if depth (.array items) ≤ bound then some (.array items, rest) else none := by
  have htext : (compact (.array items)).toList ++ rest =
      '[' :: ((compactItems items).toList ++ ']' :: rest) := by
    simp [compact]
  rw [htext, depth]
  cases bound with
  | zero => rw [value?_zero_of_bracket (.inl rfl), if_neg (Nat.not_succ_le_zero _)]
  | succ bound =>
    rw [value?_succ_of_bracket (.inl rfl)]
    simp only [Nat.add_le_add_iff_right]
    rcases items with _ | ⟨item, items⟩
    · rw [itemsDepth, if_pos (Nat.zero_le bound)]
      rfl
    · obtain ⟨first, others, hfront, hfirst⟩ := exists_first_items item items
      have hread := hitems (List.cons_ne_nil item items) bound
      rw [hfront, List.cons_append] at hread ⊢
      rw [bracketed?_array _ hfirst, hread]
      split <;> rfl

/-- An object whose members stand in order is read back when its members are. -/
theorem value?_object {members : Members} {rest : List Char}
    (horder : (members.map Prod.fst).Pairwise Follows)
    (hmembers : members ≠ [] → ∀ bound,
      members? (value? bound) ((compactMembers members).toList ++ '\x7d' :: rest) =
        if membersDepth members ≤ bound then some (members, rest) else none) (bound : Nat) :
    value? bound ((compact (.object members)).toList ++ rest) =
      if depth (.object members) ≤ bound then some (.object members, rest) else none := by
  have htext : (compact (.object members)).toList ++ rest =
      '\x7b' :: ((compactMembers members).toList ++ '\x7d' :: rest) := by
    simp [compact, openBrace, closeBrace]
  rw [htext, depth]
  cases bound with
  | zero => rw [value?_zero_of_bracket (.inr rfl), if_neg (Nat.not_succ_le_zero _)]
  | succ bound =>
    rw [value?_succ_of_bracket (.inr rfl)]
    simp only [Nat.add_le_add_iff_right]
    rcases members with _ | ⟨member, members⟩
    · rw [membersDepth, if_pos (Nat.zero_le bound)]
      rfl
    · obtain ⟨others, hfront⟩ := exists_first_members member members
      have hread := hmembers (List.cons_ne_nil member members) bound
      rw [hfront, List.cons_append] at hread ⊢
      rw [bracketed?_object, hread]
      split
      · simp only [Option.map_some, sortMembers_of_pairwise horder]
      · rfl

mutual

/-- A value is read back when it is not too deep, and refused when it is. -/
theorem value?_compact : ∀ {value : Json}, value.IsOrdered → ∀ (bound : Nat) {rest : List Char},
    EndsNumber rest → value? bound (value.compact.toList ++ rest) =
      if value.depth ≤ bound then some (value, rest) else none
  | .null, _, bound, _, hrest => value?_of_depth_eq_zero rfl bound hrest
  | .boolean _, _, bound, _, hrest => value?_of_depth_eq_zero rfl bound hrest
  | .number _, _, bound, _, hrest => value?_of_depth_eq_zero rfl bound hrest
  | .text _, _, bound, _, hrest => value?_of_depth_eq_zero rfl bound hrest
  | .array _, h, bound, rest, _ =>
    value?_array (fun hne bound => items?_compactItems hne h bound rest) bound
  | .object _, h, bound, rest, _ =>
    value?_object h.1 (fun hne bound => members?_compactMembers hne h.2 bound rest) bound

/-- Items are read back when none of them is too deep, and refused otherwise. -/
theorem items?_compactItems : ∀ {items : List Json}, items ≠ [] → ItemsOrdered items →
    ∀ (bound : Nat) (rest : List Char),
      items? (value? bound) ((compactItems items).toList ++ ']' :: rest) =
        if itemsDepth items ≤ bound then some (items, rest) else none
  | [], hne, _, _, _ => absurd rfl hne
  | [item], _, h, bound, rest => by
    have hread := value?_compact h.1 bound (endsNumber_cons (.inr (.inl rfl)) rest)
    rw [← skipSpace_compact] at hread
    rw [compactItems, itemsDepth, itemsDepth, Nat.max_zero]
    split
    · rename_i hitem
      rw [if_pos hitem] at hread
      exact items?_of_last hread
    · rename_i hitem
      rw [if_neg hitem] at hread
      exact items?_of_none hread
  | item :: next :: items, _, h, bound, rest => by
    have hrest := items?_compactItems (List.cons_ne_nil next items) h.2 bound rest
    generalize hback : (compactItems (next :: items)).toList ++ ']' :: rest = back at hrest
    have htext : (compactItems (item :: next :: items)).toList ++ ']' :: rest =
        item.compact.toList ++ ',' :: back := by
      rw [← hback, compactItems]
      simp
    have hread := value?_compact h.1 bound (endsNumber_cons (.inl rfl) back)
    rw [← skipSpace_compact] at hread
    rw [htext, itemsDepth]
    simp only [Nat.max_le]
    by_cases hitem : item.depth ≤ bound
    · rw [if_pos hitem] at hread
      rw [items?_of_comma hread (by simp; omega), hrest]
      simp only [hitem, true_and]
      split <;> rfl
    · rw [if_neg hitem] at hread
      rw [items?_of_none hread, if_neg (fun hboth => hitem hboth.1)]

/-- Members are read back when no value is too deep, and refused otherwise. -/
theorem members?_compactMembers : ∀ {members : Members}, members ≠ [] → MembersOrdered members →
    ∀ (bound : Nat) (rest : List Char),
      members? (value? bound) ((compactMembers members).toList ++ '\x7d' :: rest) =
        if membersDepth members ≤ bound then some (members, rest) else none
  | [], hne, _, _, _ => absurd rfl hne
  | [(name, value)], _, h, bound, rest => by
    have hread := value?_compact h.1 bound (endsNumber_cons (.inr (.inr rfl)) rest)
    have htext : (compactMembers [(name, value)]).toList ++ '\x7d' :: rest =
        (quoted name).toList ++ ':' :: (value.compact.toList ++ '\x7d' :: rest) := by
      simp [compactMembers]
    rw [← skipSpace_compact] at hread
    rw [htext, membersDepth, membersDepth, Nat.max_zero]
    split
    · rename_i hvalue
      rw [if_pos hvalue] at hread
      exact members?_of_last hread
    · rename_i hvalue
      rw [if_neg hvalue] at hread
      exact members?_of_none hread
  | (name, value) :: next :: members, _, h, bound, rest => by
    have hrest := members?_compactMembers (List.cons_ne_nil next members) h.2 bound rest
    generalize hback : (compactMembers (next :: members)).toList ++ '\x7d' :: rest = back at hrest
    have htext : (compactMembers ((name, value) :: next :: members)).toList ++ '\x7d' :: rest =
        (quoted name).toList ++ ':' :: (value.compact.toList ++ ',' :: back) := by
      rw [← hback, compactMembers]
      simp
    have hread := value?_compact h.1 bound (endsNumber_cons (.inl rfl) back)
    rw [← skipSpace_compact] at hread
    rw [htext, membersDepth]
    simp only [Nat.max_le]
    by_cases hvalue : value.depth ≤ bound
    · rw [if_pos hvalue] at hread
      rw [members?_of_comma hread (by simp; omega), hrest]
      simp only [hvalue, true_and]
      split <;> rfl
    · rw [if_neg hvalue] at hread
      rw [members?_of_none hread, if_neg (fun hboth => hvalue hboth.1)]

end

/-! ### Documents -/

/-- **The text of a value is read as the value, or not at all when it is too deep.** -/
theorem ofText?_compact {value : Json} (h : value.IsOrdered) :
    ofText? value.compact = if value.depth ≤ maxDepth then some value else none := by
  have hread := value?_compact h maxDepth endsNumber_nil
  rw [← skipSpace_compact, List.append_nil] at hread
  rw [ofText?, hread]
  by_cases hdepth : value.depth ≤ maxDepth
  · rw [if_pos hdepth, if_pos hdepth]
    rfl
  · rw [if_neg hdepth, if_neg hdepth]

end Json

end Eligibility
