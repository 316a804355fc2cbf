import Mathlib.Data.List.DropRight
import Mathlib.Tactic.Common
import TargetNet.Path

/-!
# Pieces of paths

A path is its pieces with a slash between each two (`joinNames_pieces`, `pieces_joinNames`), and
what is done to paths is seen best on the pieces: `join` puts them one after another (`named_join`),
and the parent of a path has all but the last name (`parent?_eq_some`).
-/

namespace TargetNet.Path

/-- The pieces of a path that are not empty. -/
def named (path : Path) : List Name :=
  (pieces path.bytes).filter (· ≠ [])

/-! ## Texts and pieces -/

/-- A text has at least one piece, which may be empty. -/
lemma pieces_ne_nil (bytes : List UInt8) : pieces bytes ≠ [] := by
  cases bytes with
  | nil => rintro ⟨⟩
  | cons b rest =>
    rw [pieces]
    split
    · intro h
      cases h
    · split <;> rintro ⟨⟩

lemma pieces_slash_cons (rest : List UInt8) : pieces (slash :: rest) = [] :: pieces rest := by
  rw [pieces, if_pos rfl]

/-- Any other byte in front belongs to the first piece. -/
lemma pieces_cons {b : UInt8} (h : b ≠ slash) {rest : List UInt8} {piece : Name}
    {more : List Name} (e : pieces rest = piece :: more) :
    pieces (b :: rest) = (b :: piece) :: more := by
  rw [pieces, if_neg h, e]

/-- There are no slashes in pieces. -/
lemma slash_notMem_of_mem_pieces {bytes : List UInt8} {piece : Name} (h : piece ∈ pieces bytes) :
    slash ∉ piece := by
  induction bytes generalizing piece with
  | nil =>
    cases List.mem_singleton.1 h
    intro h
    cases h
  | cons b rest ih =>
    by_cases hb : b = slash
    · subst hb
      rw [pieces_slash_cons] at h
      rcases List.mem_cons.1 h with rfl | h
      · intro h
        cases h
      · exact ih h
    · obtain ⟨first, more, e⟩ := List.exists_cons_of_ne_nil (pieces_ne_nil rest)
      rw [pieces_cons hb e] at h
      rw [e] at ih
      rcases List.mem_cons.1 h with rfl | h
      · rw [List.mem_cons, not_or]
        exact ⟨fun e => hb e.symm, ih List.mem_cons_self⟩
      · exact ih (List.mem_cons_of_mem _ h)

/-- A name is followed by a slash and the others. -/
lemma joinNames_cons (name : Name) {rest : List Name} (h : rest ≠ []) :
    joinNames (name :: rest) = name ++ slash :: joinNames rest := by
  cases rest with
  | nil => exact absurd rfl h
  | cons => rfl

/-- There is a slash between names that are joined in two parts. -/
lemma joinNames_append {names rest : List Name} (h : names ≠ []) (h' : rest ≠ []) :
    joinNames (names ++ rest) = joinNames names ++ slash :: joinNames rest := by
  induction names with
  | nil => exact absurd rfl h
  | cons name names ih =>
    cases names with
    | nil => rw [List.singleton_append, joinNames_cons name h']; rfl
    | cons next names =>
      rw [List.cons_append, joinNames_cons name (by simp), ih (by simp),
        joinNames_cons name (by simp), List.append_assoc, List.cons_append]

/-- The pieces before and after a slash are those of both texts. -/
lemma pieces_append (bytes rest : List UInt8) :
    pieces (bytes ++ slash :: rest) = pieces bytes ++ pieces rest := by
  induction bytes with
  | nil => exact pieces_slash_cons rest
  | cons b bytes ih =>
    rw [List.cons_append]
    by_cases hb : b = slash
    · subst hb
      rw [pieces_slash_cons, pieces_slash_cons, ih, List.cons_append]
    · obtain ⟨first, more, e⟩ := List.exists_cons_of_ne_nil (pieces_ne_nil bytes)
      rw [e, List.cons_append] at ih
      rw [pieces_cons hb e, pieces_cons hb ih, List.cons_append]

/-- A text without a slash is one piece. -/
lemma pieces_of_notMem {bytes : List UInt8} (h : slash ∉ bytes) : pieces bytes = [bytes] := by
  induction bytes with
  | nil => rfl
  | cons b bytes ih =>
    rw [List.mem_cons, not_or] at h
    exact pieces_cons (fun e => h.1 e.symm) (ih h.2)

/-- The pieces of a text, joined, are the text. -/
lemma joinNames_pieces (bytes : List UInt8) : joinNames (pieces bytes) = bytes := by
  induction bytes with
  | nil => rfl
  | cons b rest ih =>
    by_cases hb : b = slash
    · subst hb
      rw [pieces_slash_cons, joinNames_cons _ (pieces_ne_nil rest), ih, List.nil_append]
    · obtain ⟨first, more, e⟩ := List.exists_cons_of_ne_nil (pieces_ne_nil rest)
      rw [pieces_cons hb e]
      rw [e] at ih
      cases more with
      | nil => exact congrArg (b :: ·) ih
      | cons next more =>
        rw [joinNames_cons _ (by simp)] at ih ⊢
        exact congrArg (b :: ·) ih

/-- Names without slashes are the pieces of what they are joined to. -/
lemma pieces_joinNames {names : List Name} (h : names ≠ []) (free : ∀ name ∈ names, slash ∉ name) :
    pieces (joinNames names) = names := by
  induction names with
  | nil => exact absurd rfl h
  | cons name rest ih =>
    have one := pieces_of_notMem (free name List.mem_cons_self)
    cases rest with
    | nil => exact one
    | cons next rest =>
      rw [joinNames_cons name (by simp), pieces_append, one,
        ih (by simp) fun name hn => free name (List.mem_cons_of_mem _ hn)]
      rfl

/-- More names make a longer text with the same beginning. -/
lemma joinNames_prefix (names rest : List Name) :
    joinNames names <+: joinNames (names ++ rest) := by
  cases names with
  | nil => exact List.nil_prefix
  | cons name names =>
    cases rest with
    | nil => simp
    | cons next rest =>
      rw [joinNames_append (by simp) (by simp)]
      exact List.prefix_append _ _

/-! ## Joined paths -/

/-- A name that leads on to an entry: it is not empty, no dots, and a piece. -/
structure IsProper (name : Name) : Prop where
  ne_nil : name ≠ []
  ne_dot : name ≠ [dot]
  ne_dots : name ≠ [dot, dot]
  free : slash ∉ name

/-- The component that a proper name stands for. -/
lemma IsProper.ofPiece {name : Name} (h : IsProper name) : ofPiece name = some (.name name) := by
  rw [Path.ofPiece, if_neg (not_or.2 ⟨h.ne_nil, h.ne_dot⟩), if_neg h.ne_dots]

/-- The pieces of proper names. -/
lemma named_ofNames {names : List Name} (h : names ≠ []) (proper : ∀ name ∈ names, IsProper name) :
    (ofNames names).named = names := by
  rw [named, ofNames, pieces_joinNames h fun name hn => (proper name hn).free, List.filter_eq_self]
  exact fun name hn => decide_eq_true (proper name hn).ne_nil

/-- Proper names make a relative path. -/
lemma isAbsolute_ofNames {names : List Name} (proper : ∀ name ∈ names, IsProper name) :
    (ofNames names).isAbsolute = false := by
  cases names with
  | nil => rfl
  | cons name rest =>
    have first := proper name List.mem_cons_self
    obtain ⟨b, bytes, rfl⟩ := List.exists_cons_of_ne_nil first.ne_nil
    have ne : b ≠ slash := fun e => first.free (e ▸ List.mem_cons_self)
    cases rest <;> simpa [isAbsolute, ofNames, joinNames] using ne

/-- Joined names end as the last one does. -/
lemma getLast?_joinNames (names : List Name) {last : Name} (h : last ≠ []) :
    (joinNames (names ++ [last])).getLast? = last.getLast? := by
  cases names with
  | nil => rfl
  | cons name rest =>
    rw [joinNames_append (by simp) (by simp), List.getLast?_append_of_ne_nil _ (by simp), joinNames,
      List.getLast?_cons, List.getLast?_eq_some_getLast h, Option.getD_some]

/-- Proper names make a path without a slash at its end. -/
lemma endsInSlash_ofNames {names : List Name} (proper : ∀ name ∈ names, IsProper name) :
    (ofNames names).endsInSlash = false := by
  rcases List.eq_nil_or_concat names with rfl | ⟨init, last, rfl⟩
  · rfl
  · have h := proper last (by simp)
    rw [endsInSlash, ofNames, List.concat_eq_append, getLast?_joinNames init h.ne_nil,
      beq_eq_false_iff_ne]
    exact fun e => h.free (List.mem_of_getLast? e)

/-- The pieces of a path come after those of the directory that it is read in. -/
lemma named_join {base path : Path} (h : path.isAbsolute = false) :
    (base.join path).named = base.named ++ path.named := by
  rw [join]
  split
  · rename_i alone
    rcases alone with absolute | empty
    · rw [h] at absolute; cases absolute
    · simp [named, empty, pieces]
  · split
    · rename_i slashed
      obtain ⟨init, e⟩ : ∃ init, base.bytes = init ++ [slash] :=
        List.getLast?_eq_some_iff.1 (by simpa [endsInSlash] using slashed)
      simp only [named, e, List.append_assoc, List.singleton_append, pieces_append,
        List.filter_append]
      simp [pieces]
    · simp only [named, pieces_append, List.filter_append]

/-- A relative path in a directory is absolute if the directory is. -/
lemma isAbsolute_join {base path : Path} (h : path.isAbsolute = false) (ne : base.bytes ≠ []) :
    (base.join path).isAbsolute = base.isAbsolute := by
  obtain ⟨b, bytes, e⟩ := List.exists_cons_of_ne_nil ne
  rw [join, if_neg (by simp [h, ne])]
  split <;> simp [isAbsolute, e]

/-- A joined path ends as the second path does. -/
lemma endsInSlash_join {base path : Path} (ne : path.bytes ≠ []) :
    (base.join path).endsInSlash = path.endsInSlash := by
  have ends (bytes : List UInt8) : (bytes ++ path.bytes).getLast? = path.bytes.getLast? :=
    List.getLast?_append_of_ne_nil _ ne
  rw [join]
  split
  · rfl
  · split
    · rw [endsInSlash, ends, endsInSlash]
    · rw [endsInSlash, ← List.singleton_append, ← List.append_assoc, ends, endsInSlash]

/-- A joined path is the texts of both with one slash between them. -/
lemma join_eq {base path : Path} (h : path.isAbsolute = false) (ne : base.bytes ≠ []) :
    base.join path =
      ⟨base.bytes ++ (if base.endsInSlash then [] else [slash]) ++ path.bytes⟩ := by
  rw [join, if_neg (by simp [h, ne])]
  split <;> simp

/-- A path read in a joined one is one that is read in the second of the two. -/
lemma join_join (base : Path) {path more : Path} (h : path.isAbsolute = false)
    (h' : more.isAbsolute = false) (ne : path.bytes ≠ []) :
    (base.join path).join more = base.join (path.join more) := by
  have inner : (path.join more).isAbsolute = false := (isAbsolute_join h' ne).trans h
  by_cases empty : base.bytes = []
  · have alone (path : Path) : base.join path = path := if_pos (.inr empty)
    rw [alone, alone]
  · have outer : (base.join path).bytes ≠ [] := by simp [join_eq h empty, ne]
    rw [join_eq h' outer, endsInSlash_join ne, join_eq h empty, join_eq inner empty, join_eq h' ne]
    simp only [List.append_assoc]

/-! ## The parent of a path -/

/-- What a path starts with: nothing before an absolute path, or a leading dot. -/
def lead (path : Path) : List Name :=
  if path.start = [.root] then [[]] else if path.start = [.here] then [[dot]] else []

/-- The pieces of a path are what it starts with and its body. -/
lemma pieces_eq (path : Path) : pieces path.bytes = path.lead ++ path.body := by
  obtain ⟨first, rest, e⟩ := List.exists_cons_of_ne_nil (pieces_ne_nil path.bytes)
  rw [lead, body, start, e]
  split
  · rename_i absolute
    cases hb : path.bytes with
    | nil => simp [isAbsolute, hb] at absolute
    | cons b bytes =>
      obtain rfl : b = slash := by simpa [isAbsolute, hb] using absolute
      rw [hb, pieces_slash_cons] at e
      cases e
      rfl
  · split
    · rename_i here
      cases Option.some.inj here
      rfl
    · rfl

/-- A body that goes on with a name is spelled out after what the path starts with. -/
lemma bytes_withBody (path : Path) {body : List Name} (h : body ≠ []) :
    (path.withBody body).bytes = joinNames (path.lead ++ body) := by
  rw [withBody, lead]
  split
  · rename_i e
    rw [if_pos e, List.singleton_append, joinNames_cons _ h, List.nil_append]
  · rename_i e
    rw [if_neg (by rw [e]; rintro ⟨⟩), if_pos e]
    rfl
  · rename_i e1 e2
    rw [if_neg e1, if_neg e2]
    rfl

/-- A path that another one goes on from. -/
structure IsBeginning (beginning path : Path) : Prop where
  isAbsolute : beginning.isAbsolute = path.isAbsolute
  bytes : beginning.bytes <+: path.bytes
  endsInSlash : beginning.endsInSlash = true → beginning.bytes = [slash]

/-- A path goes on from what it starts with. -/
lemma isBeginning_nil (path : Path) :
    IsBeginning (path.withBody []) path ∧
      (path.withBody []).named = path.lead.filter (· ≠ []) := by
  have pieces := path.pieces_eq
  have spelled := joinNames_pieces path.bytes
  rw [pieces] at spelled
  rw [withBody]
  split
  · rename_i e
    have absolute : path.isAbsolute = true := by
      rw [start] at e
      split at e
      · assumption
      · split at e <;> cases e
    have lead : path.lead = [[]] := by rw [Path.lead, if_pos e]
    refine ⟨⟨by rw [absolute]; rfl, ?_, fun _ => rfl⟩, by rw [lead]; rfl⟩
    cases hb : path.bytes with
    | nil => simp [Path.isAbsolute, hb] at absolute
    | cons b bytes =>
      obtain rfl : b = slash := by simpa [Path.isAbsolute, hb] using absolute
      exact ⟨bytes, rfl⟩
  · rename_i e
    have relative : path.isAbsolute = false := by
      rw [start] at e
      split at e
      · cases e
      · rename_i h; simpa using h
    have lead : path.lead = [[dot]] := by rw [Path.lead, if_neg (by rw [e]; rintro ⟨⟩), if_pos e]
    refine ⟨⟨by rw [relative]; rfl, ?_, by rintro ⟨⟩⟩, by rw [lead]; rfl⟩
    rw [← spelled, lead]
    exact joinNames_prefix _ _
  · rename_i e1 e2
    have relative : path.isAbsolute = false := by
      rw [start] at e1
      split at e1
      · exact absurd rfl e1
      · rename_i h; simpa using h
    have lead : path.lead = [] := by rw [Path.lead, if_neg e1, if_neg e2]
    exact ⟨⟨by rw [relative]; rfl, List.nil_prefix, by rintro ⟨⟩⟩, by rw [lead]; rfl⟩

/-- A path goes on from each of the pieces of its body that is not empty. -/
lemma isBeginning_concat {path : Path} {init more : List Name} {last : Name} (ne : last ≠ [])
    (e : path.body = init ++ [last] ++ more) :
    IsBeginning (path.withBody (init ++ [last])) path ∧
      (path.withBody (init ++ [last])).named =
        (path.lead ++ (init ++ [last])).filter (· ≠ []) := by
  have pieces := path.pieces_eq
  have free {piece : Name} (h : piece ∈ path.lead ++ (init ++ [last])) : slash ∉ piece := by
    have member : piece ∈ Path.pieces path.bytes := by
      rw [pieces, e, ← List.append_assoc]
      exact List.mem_append_left _ h
    exact slash_notMem_of_mem_pieces member
  have spelled := path.bytes_withBody (show init ++ [last] ≠ [] by simp)
  have before : (path.withBody (init ++ [last])).bytes <+: path.bytes := by
    have := joinNames_prefix (path.lead ++ (init ++ [last])) more
    rwa [List.append_assoc, ← e, ← pieces, joinNames_pieces, ← spelled] at this
  have ends : (path.withBody (init ++ [last])).bytes.getLast? = last.getLast? := by
    rw [spelled, ← List.append_assoc]
    exact getLast?_joinNames _ ne
  have nonempty : (path.withBody (init ++ [last])).bytes ≠ [] := by
    intro none
    rw [none] at ends
    exact ne (List.getLast?_eq_none_iff.1 ends.symm)
  refine ⟨⟨?_, before, ?_⟩, ?_⟩
  · obtain ⟨b, bytes, eb⟩ := List.exists_cons_of_ne_nil nonempty
    obtain ⟨rest, er⟩ := before
    rw [isAbsolute, isAbsolute, ← er, eb]
    rfl
  · intro slashed
    rw [endsInSlash, ends, beq_iff_eq] at slashed
    exact absurd (List.mem_of_getLast? slashed) (free (by simp))
  · rw [named, spelled, pieces_joinNames (by simp) fun _ => free]

/-- Pieces that stand for nothing are trimmed. -/
lemma trimEnd_append {pieces junk : List Name} (h : ∀ piece ∈ junk, ofPiece piece = none) :
    trimEnd (pieces ++ junk) = trimEnd pieces := by
  rw [trimEnd, List.reverse_append, List.dropWhile_append_of_pos, trimEnd]
  intro piece hp
  rw [h piece (List.mem_reverse.1 hp)]
  rfl

lemma trimEnd_concat {piece : Name} (h : ofPiece piece ≠ none) (pieces : List Name) :
    trimEnd (pieces ++ [piece]) = pieces ++ [piece] := by
  simp [trimEnd, Option.isNone_iff_eq_none, h]

/-- Trimming takes away what stands for nothing, up to a piece that stands for something. -/
lemma exists_trimEnd (pieces : List Name) :
    ∃ junk, pieces = trimEnd pieces ++ junk ∧ (∀ piece ∈ junk, ofPiece piece = none) ∧
      (trimEnd pieces = [] ∨
        ∃ init last, trimEnd pieces = init ++ [last] ∧ ofPiece last ≠ none) := by
  -- from the end, which is where pieces are taken away
  induction pieces using List.reverseRecOn with
  | nil => exact ⟨[], rfl, by simp, .inl rfl⟩
  | append_singleton pieces piece ih =>
    by_cases h : ofPiece piece = none
    · obtain ⟨junk, e, none, last⟩ := ih
      rw [trimEnd_append (by simpa using h)]
      refine ⟨junk ++ [piece], by rw [← List.append_assoc, ← e], ?_, last⟩
      intro other ho
      rcases List.mem_append.1 ho with ho | ho
      · exact none other ho
      · rwa [List.mem_singleton.1 ho]
    · rw [trimEnd_concat h]
      exact ⟨[], (List.append_nil _).symm, by simp, .inr ⟨pieces, piece, rfl, h⟩⟩

/-- The pieces that a name which is not led by dots is the last of. -/
lemma body_eq {path : Path} {name : Name} (last : path.named.getLast? = some name)
    (proper : IsProper name) :
    ∃ before after, path.body = before ++ [name] ++ after ∧ ∀ piece ∈ after, piece = [] := by
  rw [named, pieces_eq, List.filter_append] at last
  -- without names in the body, the name would be what the path starts with
  rcases List.eq_nil_or_concat (path.body.filter (· ≠ [])) with e | ⟨ys, name', e⟩
  · rw [e, List.append_nil] at last
    have member := (List.mem_filter.1 (List.mem_of_getLast? last)).1
    rw [lead] at member
    split at member
    · exact absurd (List.mem_singleton.1 member) proper.ne_nil
    · split at member
      · exact absurd (List.mem_singleton.1 member) proper.ne_dot
      · cases member
  · rw [e, List.concat_eq_append, ← List.append_assoc, List.getLast?_concat] at last
    cases last
    rw [List.concat_eq_append] at e
    obtain ⟨front, back, body, -, eb⟩ := List.filter_eq_append_iff.1 e
    obtain ⟨gap, after, rfl, -, -, none⟩ := List.filter_eq_cons_iff.1 eb
    refine ⟨front ++ gap, after, ?_, by simpa [List.filter_eq_nil_iff] using none⟩
    rw [body]
    simp

/-- The directory of a path that names an entry: its parent has all names but the last one. -/
theorem parent?_eq_some {path : Path} {name : Name} (last : path.named.getLast? = some name)
    (proper : IsProper name) :
    ∃ parent dots, path.parent? = some parent ∧ IsBeginning parent path ∧
      path.named.dropLast = parent.named ++ dots ∧ ∀ piece ∈ dots, piece = [dot] := by
  obtain ⟨before, after, body, empty⟩ := body_eq last proper
  obtain ⟨junk, trimmed, none, end'⟩ := exists_trimEnd before
  have insignificant : ∀ piece ∈ after, ofPiece piece = Option.none := by
    intro piece hp
    rw [empty piece hp]
    rfl
  have components : path.components.getLast? = some (.name name) := by
    have : after.filterMap ofPiece = [] := List.filterMap_eq_nil_iff.2 insignificant
    simp [components, pieces_eq, body, this, proper.ofPiece]
  have parent : path.parent? = some (path.withBody (trimEnd before)) := by
    rw [parent?, components, body, trimEnd_append insignificant,
      trimEnd_concat (by rw [proper.ofPiece]; rintro ⟨⟩), List.dropLast_concat]
  -- past the parent, only what stands for nothing comes before the name
  have names : path.named.dropLast =
      (path.lead ++ trimEnd before).filter (· ≠ []) ++ junk.filter (· ≠ []) := by
    have : after.filter (· ≠ []) = [] := by simpa [List.filter_eq_nil_iff] using empty
    rw [named, pieces_eq, body, ← List.filter_append, List.append_assoc path.lead _ junk,
      ← trimmed, ← List.append_assoc]
    simp only [List.filter_append, this, List.append_nil]
    rw [List.filter_cons_of_pos (by simpa using proper.ne_nil), List.filter_nil,
      ← List.append_assoc, List.dropLast_concat]
  have beginning : IsBeginning (path.withBody (trimEnd before)) path ∧
      (path.withBody (trimEnd before)).named =
        (path.lead ++ trimEnd before).filter (· ≠ []) := by
    rcases end' with e | ⟨init, last, e, some⟩
    · rw [e, List.append_nil]
      exact path.isBeginning_nil
    · rw [e]
      have ne : last ≠ [] := by
        rintro rfl
        exact some rfl
      have goes : path.body = init ++ [last] ++ (junk ++ [name] ++ after) := by
        rw [body, ← e, ← List.append_assoc, ← List.append_assoc, ← trimmed]
      exact isBeginning_concat ne goes
  refine ⟨_, junk.filter (· ≠ []), parent, beginning.1, by rw [beginning.2]; exact names, ?_⟩
  intro piece hp
  obtain ⟨hp, ne⟩ := List.mem_filter.1 hp
  have := none piece hp
  rw [ofPiece] at this
  split at this
  · rename_i h
    exact h.resolve_left (by simpa using ne)
  · split at this <;> cases this

end TargetNet.Path
