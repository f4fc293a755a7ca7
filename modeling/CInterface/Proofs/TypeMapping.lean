import CInterface.Binding
import Mathlib.Data.List.SplitBy
import Mathlib.Data.List.TakeWhile

namespace CInterface

/-!
# Value types — names and kinds

What the mapping of a C type depends on, and how far its two results tell the same.

* `ValueType.tokens` — the words of a type and its other characters.
* `ValueType.squeeze_eq_flatten_tokens` — squeezing a type drops the tokens that are whitespace or
  `const`, and no others.
* `ValueType.mapType_of_tokens` — types that differ in such tokens only are mapped alike, and no
  name holds whitespace or a star.
* `ValueType.classify_cases` — the kinds and the names that go with them.
* `ValueType.target_agrees_with_kind` — a type named `string`, `boolean` or `void` is passed as
  such, unless it has that name in C already.
-/

/-- No name holds whitespace. -/
theorem Text.isWhitespace_of_isNameChar {c : Char} (h : isNameChar c = true) :
    isWhitespace c = false := by
  -- There are few whitespace characters, so it is these that are looked up in the larger table.
  refine Bool.eq_false_iff.2 fun hspace => ?_
  have hname : isNameChar c = false :=
    of_isWhitespace (p := fun c => isNameChar c = false) (by decide +kernel) hspace
  exact absurd (h.symm.trans hname) (by decide)

namespace ValueType

/-! ### Tokens -/

/-- Do two neighbouring characters belong to one word? -/
def inOneWord (a b : Char) : Bool :=
  Text.isNameChar a && Text.isNameChar b

/-- The tokens of a type: its words, each as long as it goes, and its other characters one by
    one. -/
def tokens (type : Text) : List Text :=
  type.splitBy inOneWord

/-- Does a token tell types apart?  Whitespace and the word `const` do not. -/
def isMeaningful (token : Text) : Bool :=
  !token.all Text.isWhitespace && token != "const".toList

/-- A character that is in no word is a token of its own. -/
theorem tokens_other_cons {c : Char} (hc : Text.isNameChar c = false) (t : Text) :
    tokens (c :: t) = [c] :: tokens t := by
  have happend := List.splitBy_append (r := inOneWord) (l := [c]) (m := t) (by simp [inOneWord, hc])
  rw [List.splitBy_of_isChain (by simp) (List.isChain_singleton c)] at happend
  exact happend

/-- A word that goes on until a character outside of words is a token. -/
theorem tokens_word_append {word t : Text} (hne : word ≠ [])
    (hword : ∀ c ∈ word, Text.isNameChar c = true)
    (ht : ∀ c, t.head? = some c → Text.isNameChar c = false) :
    tokens (word ++ t) = word :: tokens t := by
  have hchain : word.IsChain fun a b => inOneWord a b = true := by
    -- Any two characters of the word go together, neighbours or not.
    refine List.Pairwise.isChain (List.pairwise_of_forall_mem_list fun a ha b hb => ?_)
    simp [inOneWord, hword a ha, hword b hb]
  have happend := List.splitBy_append (r := inOneWord) (l := word) (m := t)
    (fun a _ b hb => by simp [inOneWord, ht b hb])
  rw [List.splitBy_of_isChain hne hchain] at happend
  exact happend

/-- A type is empty, or a character outside of words stands first, or a word does. -/
theorem token_induction {motive : Text → Prop} (nil : motive [])
    (other : ∀ c t, Text.isNameChar c = false → motive t → motive (c :: t))
    (word : ∀ word t, word ≠ [] → (∀ c ∈ word, Text.isNameChar c = true) →
      (∀ c, t.head? = some c → Text.isNameChar c = false) → motive t → motive (word ++ t))
    (type : Text) : motive type := by
  induction hn : type.length using Nat.strongRecOn generalizing type with
  | _ n ih =>
    cases type with
    | nil => exact nil
    | cons c t =>
      by_cases hc : Text.isNameChar c = true
      · -- The word that begins here ends where its characters do.
        have hcut := List.takeWhile_append_dropWhile (p := Text.isNameChar) (l := c :: t)
        have hlen : ((c :: t).dropWhile Text.isNameChar).length < n := by
          have hle := (List.dropWhile_sublist (l := t) Text.isNameChar).length_le
          rw [List.dropWhile_cons_of_pos hc, ← hn, List.length_cons]
          omega
        rw [← hcut]
        refine word _ _ (by simp [hc]) (fun a ha => List.mem_takeWhile_imp ha) (fun a ha => ?_)
          (ih _ hlen _ rfl)
        have hstop := List.head?_dropWhile_not Text.isNameChar (c :: t)
        rw [ha] at hstop
        simpa using hstop
      · have hother : Text.isNameChar c = false := by simpa using hc
        exact other c t hother (ih t.length (by rw [← hn]; simp) t rfl)

/-! ### Squeezing token by token -/

theorem squeezeParts_word_append {word : Text} (hword : ∀ c ∈ word, Text.isNameChar c = true)
    (t : Text) :
    squeezeParts (word ++ t) = (word ++ (squeezeParts t).1, (squeezeParts t).2) := by
  induction word with
  | nil => rfl
  | cons c word ih =>
    -- What follows has been read already, and the character joins the word that is open there.
    have htail := ih fun a ha => hword a (List.mem_cons_of_mem c ha)
    rw [List.cons_append, squeezeParts, htail]
    simp [hword c List.mem_cons_self]

theorem keepWord_nil : keepWord [] = [] := by
  rw [keepWord, ite_self]

/-- A character outside of words closes the word in front of it, which is none here. -/
theorem squeezeParts_other_cons {c : Char} (hc : Text.isNameChar c = false) (t : Text) :
    squeezeParts (c :: t) = ([], keepOther c ++ squeeze t) := by
  rw [squeezeParts]
  dsimp only
  rw [if_neg (by simp [hc]), List.append_assoc]
  rfl

theorem squeeze_other_cons {c : Char} (hc : Text.isNameChar c = false) (t : Text) :
    squeeze (c :: t) = keepOther c ++ squeeze t := by
  show keepWord (squeezeParts (c :: t)).1 ++ (squeezeParts (c :: t)).2 = _
  rw [squeezeParts_other_cons hc, keepWord_nil]
  rfl

theorem squeeze_word_append {word t : Text} (hword : ∀ c ∈ word, Text.isNameChar c = true)
    (ht : ∀ c, t.head? = some c → Text.isNameChar c = false) :
    squeeze (word ++ t) = keepWord word ++ squeeze t := by
  have hparts : squeezeParts t = ([], squeeze t) := by
    cases t with
    | nil => rfl
    | cons c t => rw [squeeze_other_cons (ht c rfl), squeezeParts_other_cons (ht c rfl)]
  show keepWord (squeezeParts (word ++ t)).1 ++ (squeezeParts (word ++ t)).2 = _
  rw [squeezeParts_word_append hword, hparts, List.append_nil]

/-- A word is kept if it is meaningful. -/
theorem keepWord_eq {word : Text} (hne : word ≠ [])
    (hword : ∀ c ∈ word, Text.isNameChar c = true) :
    keepWord word = if isMeaningful word then word else [] := by
  have hspace : word.all Text.isWhitespace = false := by
    obtain ⟨c, word, rfl⟩ := List.exists_cons_of_ne_nil hne
    have hc := Text.isWhitespace_of_isNameChar (hword c List.mem_cons_self)
    simp [hc]
  by_cases hconst : word = "const".toList
  · subst hconst
    rfl
  · have hmeaningful : isMeaningful word = true := by
      rw [isMeaningful, hspace]
      exact bne_iff_ne.2 hconst
    rw [keepWord, if_neg hconst, if_pos hmeaningful]

/-- A character outside of words is kept if it is meaningful. -/
theorem keepOther_eq (c : Char) : keepOther c = if isMeaningful [c] then [c] else [] := by
  have hlength : 1 ≠ "const".toList.length := by decide
  have hword : ([c] != "const".toList) = true :=
    bne_iff_ne.2 fun h => hlength (congrArg List.length h)
  rw [keepOther, isMeaningful, hword, Bool.and_true]
  cases hspace : Text.isWhitespace c <;> simp [hspace]

/-- What is left of a type are its meaningful tokens, one behind the other. -/
theorem squeeze_eq_flatten_tokens (type : Text) :
    squeeze type = ((tokens type).filter isMeaningful).flatten := by
  -- Behind a token that is in front of others both sides go on alike.
  have hstep : ∀ (token : Text) (rest : List Text), ((token :: rest).filter isMeaningful).flatten
      = (if isMeaningful token then token else []) ++ (rest.filter isMeaningful).flatten := by
    intro token rest
    by_cases h : isMeaningful token <;> simp [h]
  induction type using token_induction with
  | nil => rfl
  | other c t hc ih => rw [squeeze_other_cons hc, tokens_other_cons hc, hstep, keepOther_eq, ih]
  | word word t hne hword ht ih =>
    rw [squeeze_word_append hword ht, tokens_word_append hne hword ht, hstep,
      keepWord_eq hne hword, ih]

/-- A squeezed type holds no whitespace. -/
theorem isWhitespace_of_mem_squeeze {type : Text} {c : Char} (h : c ∈ squeeze type) :
    Text.isWhitespace c = false := by
  induction type using token_induction with
  | nil => exact absurd (keepWord_nil ▸ h : c ∈ []) (by simp)
  | other a t ha ih =>
    rw [squeeze_other_cons ha, List.mem_append, keepOther] at h
    rcases h with h | h
    · split at h
      · exact absurd h (by simp)
      · next hspace =>
        obtain rfl := List.mem_singleton.1 h
        simpa using hspace
    · exact ih h
  | word word t hne hword ht ih =>
    rw [squeeze_word_append hword ht, List.mem_append, keepWord] at h
    rcases h with h | h
    · split at h
      · exact absurd h (by simp)
      · exact Text.isWhitespace_of_isNameChar (hword c h)
    · exact ih h

/-! ### Kinds and names -/

/-- The kinds that come with a fixed name. -/
def namedKinds : List (CallKind × Text) :=
  [(.string, "string".toList), (.boolean, "boolean".toList), (.none, "void".toList),
    (.number, "number".toList)]

/-- A squeezed type has a kind with a fixed name, or else it is a number named for itself. -/
theorem classify_cases (s : Text) :
    classify s ∈ namedKinds ∨ s ≠ "void".toList ∧ classify s = (.number, spellStars s) := by
  unfold classify
  split_ifs with hchar hbool hvoid hnumber
  · exact .inl (by decide)
  · exact .inl (by decide)
  · exact .inl (by decide)
  · exact .inl (by decide)
  · exact .inr ⟨hvoid, rfl⟩

/-- A character that stays in a name as it is. -/
def isPlain (c : Char) : Bool :=
  !Text.isWhitespace c && c != '*'

theorem isPlain_iff {c : Char} : isPlain c = true ↔ Text.isWhitespace c = false ∧ c ≠ '*' := by
  simp [isPlain]

/-- Of a star only the word is left that it is spelled with. -/
theorem isPlain_of_mem_spellStars {s : Text} (hs : ∀ c ∈ s, Text.isWhitespace c = false) {c : Char}
    (h : c ∈ spellStars s) : isPlain c = true := by
  obtain ⟨a, ha, hc⟩ := List.mem_flatMap.1 h
  split at hc
  · have hpointer : pointerSuffix.all isPlain = true := by decide
    exact List.all_eq_true.1 hpointer c hc
  · next hstar =>
    obtain rfl := List.mem_singleton.1 hc
    exact isPlain_iff.2 ⟨hs c ha, hstar⟩

theorem isPlain_of_mem_target {type : Text} {c : Char} (h : c ∈ (mapType type).target) :
    isPlain c = true := by
  have hnamed : ∀ a ∈ namedKinds, a.2.all isPlain = true := by decide
  change c ∈ (classify (squeeze type)).2 at h
  rcases classify_cases (squeeze type) with hclass | ⟨-, hclass⟩
  · exact List.all_eq_true.1 (hnamed _ hclass) c h
  · rw [hclass] at h
    exact isPlain_of_mem_spellStars (fun a ha => isWhitespace_of_mem_squeeze ha) h

/-- A type without stars keeps its name. -/
theorem spellStars_of_not_mem {s : Text} (h : '*' ∉ s) : spellStars s = s := by
  have hsame : ∀ c ∈ s, (if c = '*' then pointerSuffix else [c]) = [c] :=
    fun c hc => if_neg fun hstar : c = '*' => h (hstar ▸ hc)
  rw [spellStars, List.flatMap_congr hsame, List.flatMap_singleton']

/-- A name in which no star is spelled out is the squeezed type itself. -/
theorem spellStars_eq_iff {s name : Text} (hspelled : 'P' ∉ name) (hstar : '*' ∉ name) :
    spellStars s = name ↔ s = name := by
  constructor
  · intro heq
    -- A star would have left the first letter of the word that it is spelled with.
    have hs : '*' ∉ s := by
      intro hmem
      have hP : 'P' ∈ spellStars s := List.mem_flatMap.2 ⟨'*', hmem, by decide⟩
      rw [heq] at hP
      exact hspelled hP
    rw [← heq, spellStars_of_not_mem hs]
  · rintro rfl
    exact spellStars_of_not_mem hstar

/-- **Meaningful tokens.**  Types with the same meaningful tokens have the same kind and the same
    name, and a name holds neither whitespace nor a star. -/
theorem mapType_of_tokens :
    (∀ s t : Text, (tokens s).filter isMeaningful = (tokens t).filter isMeaningful →
      (mapType s).kind = (mapType t).kind ∧ (mapType s).target = (mapType t).target) ∧
    ∀ type : Text, ∀ c ∈ (mapType type).target, Text.isWhitespace c = false ∧ c ≠ '*' := by
  constructor
  · intro s t h
    have hsqueeze : squeeze s = squeeze t := by
      rw [squeeze_eq_flatten_tokens, squeeze_eq_flatten_tokens, h]
    show (classify (squeeze s)).1 = (classify (squeeze t)).1 ∧
      (classify (squeeze s)).2 = (classify (squeeze t)).2
    rw [hsqueeze]
    exact ⟨rfl, rfl⟩
  · intro type c hc
    exact isPlain_iff.1 (isPlain_of_mem_target hc)

/-- Two spellings of a pointer type, with `const` and whitespace in different places. -/
theorem mapType_of_tokens_spelling :
    let s := "const  JSValue\t*".toList
    let t := "JSValue const*const".toList
    (tokens s).filter isMeaningful = (tokens t).filter isMeaningful ∧
      (mapType s).kind = (mapType t).kind ∧ (mapType s).target = (mapType t).target ∧
      ∀ c ∈ (mapType s).target, Text.isWhitespace c = false ∧ c ≠ '*' := by
  intro s t
  have htokens : (tokens s).filter isMeaningful = (tokens t).filter isMeaningful := by decide
  obtain ⟨hkind, htarget⟩ := mapType_of_tokens.1 s t htokens
  exact ⟨htokens, hkind, htarget, mapType_of_tokens.2 s⟩

end ValueType

/-! ### Names that say how a value is passed -/

/-- The name of a type in TypeScript and the kind of its values tell the same. -/
structure TypeMapping.Agrees (m : TypeMapping) : Prop where
  string_iff : m.target = "string".toList ↔ m.kind = .string
  boolean_iff : m.target = "boolean".toList ↔ m.kind = .boolean
  void_iff : m.target = "void".toList ↔ m.kind = .none

namespace ValueType

/-- A C type that has the name of a TypeScript type which stands for another C type. -/
def Reserved (type : Text) : Prop :=
  squeeze type = "string".toList ∨ squeeze type = "boolean".toList

/-- A type with a reserved name is passed as a number all the same. -/
theorem mapType_of_reserved {type : Text} (h : Reserved type) :
    (mapType type).kind = .number ∧ (mapType type).target = squeeze type := by
  show (classify (squeeze type)).1 = .number ∧ (classify (squeeze type)).2 = squeeze type
  rcases h with h | h
  · rw [h]
    decide
  · rw [h]
    decide

theorem agrees_of_not_reserved {type : Text} (h : ¬ Reserved type) : (mapType type).Agrees := by
  have hnamed : ∀ a ∈ namedKinds, (a.2 = "string".toList ↔ a.1 = .string) ∧
      (a.2 = "boolean".toList ↔ a.1 = .boolean) ∧ (a.2 = "void".toList ↔ a.1 = .none) := by decide
  rcases classify_cases (squeeze type) with hclass | ⟨hvoid, hclass⟩
  · obtain ⟨hstring, hboolean, hvoid⟩ := hnamed _ hclass
    exact ⟨hstring, hboolean, hvoid⟩
  · -- The name is made from the C type, and it is one of the three only if the C type is.
    obtain ⟨hstring, hboolean⟩ := not_or.1 h
    have hkind : (mapType type).kind = .number := congrArg Prod.fst hclass
    have htarget : (mapType type).target = spellStars (squeeze type) := congrArg Prod.snd hclass
    have hne : ∀ {name : Text}, 'P' ∉ name → '*' ∉ name → squeeze type ≠ name →
        (mapType type).target ≠ name :=
      fun hP hstar hname heq => hname ((spellStars_eq_iff hP hstar).1 (htarget.symm.trans heq))
    exact ⟨iff_of_false (hne (by decide) (by decide) hstring) (by simp [hkind]),
      iff_of_false (hne (by decide) (by decide) hboolean) (by simp [hkind]),
      iff_of_false (hne (by decide) (by decide) hvoid) (by simp [hkind])⟩

theorem agrees_mapType {type : Text} : (mapType type).Agrees ↔ ¬ Reserved type := by
  constructor
  · intro h hreserved
    obtain ⟨hkind, htarget⟩ := mapType_of_reserved hreserved
    rcases hreserved with hname | hname
    · rw [hname] at htarget
      exact absurd (hkind.symm.trans (h.string_iff.1 htarget)) (by decide)
    · rw [hname] at htarget
      exact absurd (hkind.symm.trans (h.boolean_iff.1 htarget)) (by decide)
  · exact agrees_of_not_reserved

end ValueType

namespace Binding

/-- No alias widens a type in whose name no pointer is spelled out. -/
theorem widenedBy?_eq_none {target : Text} (h : 'P' ∉ target) (entry : Text × Text) :
    widenedBy? target entry = none := by
  unfold widenedBy?
  split
  · rfl
  · next rest hdrop =>
    have heq := Text.dropStart?_eq_some_iff.1 hdrop
    refine if_neg fun hstarts => ?_
    have hprefix : ValueType.pointerSuffix <+: rest := List.isPrefixOf_iff_prefix.1 hstarts
    have hmem : 'P' ∈ rest := hprefix.subset (by decide)
    exact h (heq ▸ List.mem_append_right _ hmem)

/-- Widening neither makes nor unmakes a name without a bar and without a spelled-out pointer. -/
theorem widen_eq_iff {aliases : AliasTable} {target name : Text} (hbar : '|' ∉ name)
    (hP : 'P' ∉ name) : widen aliases target = name ↔ target = name := by
  constructor
  · intro h
    unfold widen at h
    split at h
    -- A widened type has a bar between its two parts.
    · exact absurd (h ▸ List.mem_append_left _ (List.mem_append_right _ (by decide))) hbar
    · exact h
  · rintro rfl
    have hnone : aliases.entries.findSome? (widenedBy? target) = none :=
      List.findSome?_eq_none_iff.2 fun entry _ => widenedBy?_eq_none hP entry
    rw [widen, hnone]

end Binding

namespace ValueType

/-- The type that a binding gives a parameter agrees with the parameter's kind as the name of its
    mapping does. -/
theorem agrees_ofParameter {aliases : AliasTable} {p : Parameter} :
    ({ mapType p.type with target := (Binding.ofParameter aliases p).target } : TypeMapping).Agrees
      ↔ (mapType p.type).Agrees := by
  have hstring : (Binding.ofParameter aliases p).target = "string".toList
      ↔ (mapType p.type).target = "string".toList := Binding.widen_eq_iff (by decide) (by decide)
  have hboolean : (Binding.ofParameter aliases p).target = "boolean".toList
      ↔ (mapType p.type).target = "boolean".toList := Binding.widen_eq_iff (by decide) (by decide)
  have hvoid : (Binding.ofParameter aliases p).target = "void".toList
      ↔ (mapType p.type).target = "void".toList := Binding.widen_eq_iff (by decide) (by decide)
  constructor
  · intro h
    exact ⟨hstring.symm.trans h.string_iff, hboolean.symm.trans h.boolean_iff,
      hvoid.symm.trans h.void_iff⟩
  · intro h
    exact ⟨hstring.trans h.string_iff, hboolean.trans h.boolean_iff, hvoid.trans h.void_iff⟩

/-- **Names and kinds.**  The name of a C type in TypeScript is `string`, `boolean` or `void`
    exactly if its values are passed so, unless the C type has the name `string` or `boolean`
    itself: then it keeps the name and is passed as a number.  The same holds of the parameters and
    of the result of every binding. -/
theorem target_agrees_with_kind :
    (∀ type : Text, (mapType type).Agrees ↔ ¬ Reserved type) ∧
    (∀ type : Text, Reserved type →
      (mapType type).kind = .number ∧ (mapType type).target = squeeze type) ∧
    ∀ (aliases : AliasTable) (d : Declaration),
      (∀ p ∈ (Binding.ofDeclaration aliases d).parameters,
        ({ p.mapping with target := p.target } : TypeMapping).Agrees ↔
          ¬ Reserved p.mapping.source) ∧
      ((Binding.ofDeclaration aliases d).result.Agrees ↔
        ¬ Reserved (Binding.ofDeclaration aliases d).result.source) := by
  refine ⟨fun type => agrees_mapType, fun type h => mapType_of_reserved h, fun aliases d => ?_⟩
  constructor
  · intro p hp
    obtain ⟨q, -, rfl⟩ := List.mem_map.1 hp
    exact agrees_ofParameter.trans agrees_mapType
  · exact agrees_mapType

/-- A function that takes a string and returns a truth value, and a type that is called `string` in
    C. -/
theorem target_agrees_with_kind_lookup :
    let b := Binding.ofDeclaration .empty
      ⟨"QTS_Has".toList, "bool ".toList, "const char *key".toList⟩
    let p := Binding.ofParameter .empty ⟨"key".toList, "const char *".toList⟩
    p ∈ b.parameters ∧ ({ p.mapping with target := p.target } : TypeMapping).Agrees ∧
      b.result.Agrees ∧ Reserved "const string".toList ∧
      (mapType "const string".toList).kind = .number := by
  intro b p
  obtain ⟨-, hreserved, hbinding⟩ := target_agrees_with_kind
  obtain ⟨hparameters, hresult⟩ := hbinding .empty
    ⟨"QTS_Has".toList, "bool ".toList, "const char *key".toList⟩
  have hp : p ∈ b.parameters := by decide
  have hstring : Reserved "const string".toList := .inl (by decide)
  exact ⟨hp, (hparameters p hp).2 (not_or.2 ⟨by decide, by decide⟩),
    hresult.2 (not_or.2 ⟨by decide, by decide⟩), hstring, (hreserved _ hstring).1⟩

/-- A type that is called `string` in C has the name of a string and is passed as a number. -/
theorem mapType_string_disagrees : ¬ ∀ type : Text, (mapType type).Agrees := by
  intro h
  exact absurd ((h "string".toList).string_iff.1 (by decide)) (by decide)

end ValueType

end CInterface
