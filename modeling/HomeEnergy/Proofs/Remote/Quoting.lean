import HomeEnergy.Proofs.Account.Email
import HomeEnergy.Proofs.Data.Keyed
import HomeEnergy.Proofs.Text.Replacing
import HomeEnergy.Remote.Documents

/-!
# `HomeEnergy.Proofs.Remote.Quoting`: how a mask is read

A mask lists fields with a comma between any two. A field is told by the names on the way to it,
with a point between any two, and a name is bare or stands between back quotes. `FieldList` is this
grammar, told without a reader: it says only what may be put together, not where a reader looks for
the end of a name.

Nothing more is needed, because a text does not leave open where its first name ends. A bare name
goes on as long as there are characters for it. Between back quotes a backslash takes the next
character with it, so that from the left one back quote only can close the name. What `quoteKey`
writes is closed at its last character, and no comma or point is left over for another name. `Alone`
is this property. It passes from names to paths and from paths to lists by the same lemma.

* `isSimpleName_iff`: the names that stay bare, told by a regular expression.
* `flatMap_escapeInQuotes_eq`: the escapes are two replacements, of backslashes first.
* `Escapes.unique`: a quoted name ends in one place and stands for one name.
* `alone_quoteKeyChars`: a quoted key is one name, and nothing else stands at its beginning.
* `maskEntries_updateQuery`: the mask of an update is the row of its quoted keys.
* `quoteKey_faithful`: so every key is quoted in a way that gives only this key back, and a mask is
  read as the fields that are sent.
-/

set_option autoImplicit false

namespace HomeEnergy.Remote

open HomeEnergy.Email (letters between mem_between isLetter_iff oneOf oneOf_mul_rmatch_iff
  star_oneOf_rmatch_iff)
open HomeEnergy.Data HomeEnergy.Text

/-! ### Bare names -/

/-- What a bare name may begin with. -/
def nameStarts : List Char := letters ++ ['_']

/-- What a bare name may hold. -/
def nameChars : List Char := letters ++ between '0' '9' ++ ['_']

/-- The whole text matches `[A-Za-z_][A-Za-z0-9_]*`. -/
def bareName : RegularExpression Char := oneOf nameStarts * (oneOf nameChars).star

/-- What `isNameStart` tests is being a letter or a low line. -/
theorem isNameStart_iff {c : Char} : isNameStart c = true ↔ c ∈ nameStarts := by
  show (isLetter c || c == '_') = true ↔ c ∈ letters ++ ['_']
  rw [Bool.or_eq_true, beq_iff_eq, isLetter_iff, List.mem_append, List.mem_singleton]

/-- What `isNameChar` tests is being a letter, a digit or a low line. -/
theorem isNameChar_iff {c : Char} : isNameChar c = true ↔ c ∈ nameChars := by
  have hdigit : Number.isDigit c = true ↔ c ∈ between '0' '9' := by
    rw [mem_between (by decide)]
    simp [Number.isDigit]
  unfold isNameChar nameChars
  rw [Bool.or_eq_true, isNameStart_iff, hdigit, nameStarts]
  simp only [List.mem_append, List.mem_singleton]
  exact or_right_comm

/-- A bare name may hold what it may begin with. -/
theorem nameStarts_subset : nameStarts ⊆ nameChars := by
  intro c hc
  rw [← isNameChar_iff, isNameChar, isNameStart_iff.mpr hc, Bool.true_or]

/-- A text matches `bareName` if it has a first character that may begin one, and only such behind
it as one may hold. -/
theorem mem_bareName_iff {cs : List Char} : cs ∈ bareName.matches' ↔
    ∃ c rest, cs = c :: rest ∧ c ∈ nameStarts ∧ ∀ d ∈ rest, d ∈ nameChars := by
  rw [← RegularExpression.rmatch_iff_matches', bareName, oneOf_mul_rmatch_iff]
  simp only [star_oneOf_rmatch_iff]

/-- The test of `isSimpleName` is the match with the regular expression `bareName`. -/
theorem isSimpleName_iff {cs : List Char} :
    isSimpleName cs = true ↔ cs ∈ bareName.matches' := by
  rw [mem_bareName_iff]
  cases cs with
  | nil => simp [isSimpleName]
  | cons c cs =>
    simp only [isSimpleName, List.head?_cons, Option.any_some, List.all_cons, Bool.and_eq_true,
      List.all_eq_true, isNameStart_iff, isNameChar_iff]
    constructor
    · intro h
      exact ⟨c, cs, rfl, h.1, h.2.2⟩
    · intro h
      obtain ⟨_, _, hsame, hc, hcs⟩ := h
      cases hsame
      exact ⟨hc, nameStarts_subset hc, hcs⟩

/-- Every character of a bare name is one that it may hold. -/
theorem mem_nameChars_of_bareName {cs : List Char} (h : cs ∈ bareName.matches') :
    ∀ c ∈ cs, c ∈ nameChars := by
  obtain ⟨c, rest, rfl, hc, hrest⟩ := mem_bareName_iff.mp h
  exact List.forall_mem_cons.mpr ⟨nameStarts_subset hc, hrest⟩

/-! ### Escapes -/

/-- The text between back quotes stands for the name: a backslash or a back quote is escaped by a
backslash before it, and every other character stands for itself. -/
inductive Escapes : List Char → List Char → Prop
  | nil : Escapes [] []
  | plain {c : Char} {text name : List Char} (hslash : c ≠ '\\') (hquote : c ≠ '\x60')
      (h : Escapes text name) : Escapes (c :: text) (c :: name)
  | escaped {c : Char} {text name : List Char} (hc : c = '\\' ∨ c = '\x60')
      (h : Escapes text name) : Escapes ('\\' :: c :: text) (c :: name)

/-- What is written between back quotes `Escapes` the name. By induction on the name. -/
theorem escapes_flatMap (cs : List Char) : Escapes (cs.flatMap escapeInQuotes) cs := by
  induction cs with
  | nil => exact .nil
  | cons c cs ih =>
    rw [List.flatMap_cons, escapeInQuotes]
    split
    · rename_i hc
      exact .escaped hc ih
    · rename_i hc
      rw [not_or] at hc
      exact .plain hc.1 hc.2 ih

/-- Back quotes are replaced after the backslashes, so the backslashes that they bring along are not
escaped again. -/
theorem flatMap_escapeInQuotes_eq (cs : List Char) : cs.flatMap escapeInQuotes
    = replaceAll ['\x60'] ['\\', '\x60'] (replaceAll ['\\'] ['\\', '\\'] cs) := by
  rw [replaceAll_singleton, replaceAll_singleton, List.flatMap_assoc]
  refine congrArg (List.flatMap · cs) (funext fun c => ?_)
  unfold escapeInQuotes
  by_cases hslash : c = '\\'
  · subst hslash
    rfl
  · by_cases hquote : c = '\x60'
    · subst hquote
      rfl
    · simp [hslash, hquote]

example : quoteKey "total-cost" = "\x60total-cost\x60" := by decide
example : quoteKey "\\\x60" = "\x60\\\\\\\x60\x60" := by decide

-- The other way round the back quote is not escaped: the backslash before it is.
example : replaceAll ['\\'] ['\\', '\\'] (replaceAll ['\x60'] ['\\', '\x60'] ['\x60'])
    = ['\\', '\\', '\x60'] := by decide

/-- Two readings of a quoted name go along together, and so they meet the same back quote at the
same time. -/
theorem Escapes.unique {text text' name name' rest rest' : List Char} (h : Escapes text name)
    (h' : Escapes text' name') (heq : text ++ '\x60' :: rest = text' ++ '\x60' :: rest') :
    name = name' ∧ rest = rest' := by
  induction h generalizing text' name' with
  | nil =>
    cases h' with
    | nil => exact ⟨rfl, (List.cons.inj heq).2⟩
    | plain _ hquote _ => exact absurd (List.cons.inj heq).1.symm hquote
    | escaped _ _ => exact absurd (List.cons.inj heq).1 (by decide)
  | plain hslash hquote _ ih =>
    cases h' with
    | nil => exact absurd (List.cons.inj heq).1 hquote
    | plain _ _ h' =>
      obtain ⟨hname, hrest⟩ := ih h' (List.cons.inj heq).2
      exact ⟨by rw [(List.cons.inj heq).1, hname], hrest⟩
    | escaped _ _ => exact absurd (List.cons.inj heq).1 hslash
  | escaped _ _ ih =>
    cases h' with
    | nil => exact absurd (List.cons.inj heq).1 (by decide)
    | plain hslash _ _ => exact absurd (List.cons.inj heq).1.symm hslash
    | escaped _ h' =>
      -- Both readings have an escape here, of the same character.
      obtain ⟨hc, htail⟩ := List.cons.inj (List.cons.inj heq).2
      obtain ⟨hname, hrest⟩ := ih h' htail
      exact ⟨by rw [hc, hname], hrest⟩

/-! ### The grammar of masks -/

/-- A name as it is written, and the name. -/
inductive Written : List Char → List Char → Prop
  | bare {name : List Char} (h : name ∈ bareName.matches') : Written name name
  | quoted {text name : List Char} (h : Escapes text name) :
      Written ('\x60' :: text ++ ['\x60']) name

/-- One or more things of a kind as they are written, with a separator between any two. -/
inductive Parted {β : Type} (separator : Char) (one : List Char → β → Prop) :
    List Char → List β → Prop
  | last {text : List Char} {x : β} (h : one text x) : Parted separator one text [x]
  | more {text rest : List Char} {x : β} {xs : List β} (h : one text x)
      (hrest : Parted separator one rest xs) :
      Parted separator one (text ++ separator :: rest) (x :: xs)

/-- A path to a field as it is written, and the names on it. Two names and more make a nested
path. -/
def FieldPath : List Char → List (List Char) → Prop := Parted '.' Written

/-- Fields as they are written, and the paths to them. -/
def FieldList : List Char → List (List (List Char)) → Prop := Parted ',' FieldPath

/-- The text is one thing of a kind and nothing else: what stands at its beginning and is one of the
kind, up to a character that no bare name has, is all of it. -/
structure Alone {β : Type} (one : List Char → β → Prop) (text : List Char) (x : β) : Prop where
  written : one text x
  only : ∀ {first rest : List Char} {y : β}, one first y → first ++ rest = text →
    (∀ c ∈ rest.head?, c ∉ nameChars) → rest = [] ∧ y = x

section Alone

variable {β : Type} {one : List Char → β → Prop} {text : List Char} {x : β}

/-- A text that is `Alone` has one reading. -/
theorem Alone.iff (h : Alone one text x) {y : β} : one text y ↔ y = x := by
  constructor
  · intro hy
    exact (h.only hy (List.append_nil text) nofun).2
  · rintro rfl
    exact h.written

/-- After a first thing of several there would be the separator, which no bare name has. -/
theorem Alone.parted (h : Alone one text x) {separator : Char}
    (hseparator : separator ∉ nameChars) : Alone (Parted separator one) text [x] where
  written := .last h.written
  only := by
    intro first rest xs hfirst htext hrest
    cases hfirst with
    | last hone =>
      obtain ⟨hnil, hx⟩ := h.only hone htext hrest
      exact ⟨hnil, congrArg (fun x => [x]) hx⟩
    | more hone _ =>
      rw [List.append_assoc] at htext
      obtain ⟨hnil, _⟩ := h.only hone htext fun c hc => Option.some.inj hc ▸ hseparator
      cases hnil

end Alone

/-! ### Quoted keys -/

/-- A bare name is read as itself and nothing else: no part of it ends where a name may end. -/
theorem alone_of_bareName {key : List Char} (h : key ∈ bareName.matches') :
    Alone Written key key where
  written := .bare h
  only := by
    intro first rest name hfirst htext hrest
    have hchars := mem_nameChars_of_bareName h
    cases hfirst with
    | bare _ =>
      cases rest with
      | nil => exact ⟨rfl, by rw [← htext, List.append_nil]⟩
      | cons c rest => exact absurd (hchars c (by simp [← htext])) (hrest c rfl)
    | quoted _ => exact absurd (hchars '\x60' (by simp [← htext])) (by decide)

/-- A name between back quotes is read as the name and nothing else: the quote at its end is the
first that is not escaped. -/
theorem alone_of_escapes {text key : List Char} (h : Escapes text key) :
    Alone Written ('\x60' :: text ++ ['\x60']) key where
  written := .quoted h
  only := by
    intro first rest name hfirst htext hrest
    cases hfirst with
    | bare hname =>
      -- The name would have to begin with the back quote.
      obtain ⟨c, tail, rfl, hc, _⟩ := mem_bareName_iff.mp hname
      rw [(List.cons.inj htext).1] at hc
      exact absurd hc (by decide)
    | @quoted inner _ hname =>
      have htail : inner ++ '\x60' :: rest = text ++ ['\x60'] := by simpa using htext
      obtain ⟨hkey, hnil⟩ := hname.unique h htail
      exact ⟨hnil, hkey⟩

/-- A bare name stays as it is. -/
theorem quoteKeyChars_of_bareName {key : List Char} (h : key ∈ bareName.matches') :
    quoteKeyChars key = key :=
  if_pos (isSimpleName_iff.mpr h)

/-- Any other key is escaped and quoted. -/
theorem quoteKeyChars_of_not_bareName {key : List Char} (h : key ∉ bareName.matches') :
    quoteKeyChars key = '\x60' :: key.flatMap escapeInQuotes ++ ['\x60'] :=
  if_neg fun hsimple => h (isSimpleName_iff.mp hsimple)

/-- A quoted key is read as the key and nothing else. -/
theorem alone_quoteKeyChars (key : List Char) : Alone Written (quoteKeyChars key) key := by
  by_cases hbare : key ∈ bareName.matches'
  · rw [quoteKeyChars_of_bareName hbare]
    exact alone_of_bareName hbare
  · rw [quoteKeyChars_of_not_bareName hbare]
    exact alone_of_escapes (escapes_flatMap key)

/-- Read as a list of fields, a quoted key is one field, whose path has the key as its one name. -/
theorem fieldList_quoteKey_iff {key : String} {fields : List (List (List Char))} :
    FieldList (quoteKey key).toList fields ↔ fields = [[key.toList]] := by
  rw [quoteKey, String.toList_ofList]
  exact (((alone_quoteKeyChars key.toList).parted (by decide)).parted (by decide)).iff

/-- A quoted key is read as both keys, and it has one reading. -/
theorem quoteKey_injective : Function.Injective quoteKey := by
  intro key other hsame
  have hread : FieldList (quoteKey key).toList [[other.toList]] := by
    rw [hsame]
    exact fieldList_quoteKey_iff.mpr rfl
  have hnames := fieldList_quoteKey_iff.mp hread
  exact String.toList_injective (by simpa using hnames.symm)

/-! ### The mask of an update -/

/-- The entries of the mask that a query holds. -/
def maskEntries (query : List (String × String)) : List String :=
  (query.filter fun p => p.1 = "updateMask.fieldPaths").map Prod.snd

/-- The mask of an update has the quoted key of each field. -/
theorem maskEntries_updateQuery (fields : Fields) :
    maskEntries (updateQuery fields) = (fields.map Prod.fst).map quoteKey := by
  simp [maskEntries, updateQuery, List.filter_map, Function.comp_def]

/-- A key that is a bare name stays as it is. Any other stands between back quotes, with its
backslashes and then its back quotes replaced, and what stands there stands for the key. Read as a
list of fields, either is one field with a path of one name, and that name is the key. So two keys
are never quoted alike, and the mask of an update has a different entry for each field, in which
nothing but this field is read. -/
theorem quoteKey_faithful :
    (∀ key : String,
      (key.toList ∈ bareName.matches' ∧ quoteKey key = key ∨
        key.toList ∉ bareName.matches' ∧ ∃ text,
          (quoteKey key).toList = '\x60' :: text ++ ['\x60'] ∧ Escapes text key.toList ∧
          text = replaceAll ['\x60'] ['\\', '\x60'] (replaceAll ['\\'] ['\\', '\\'] key.toList)) ∧
      ∀ fields, FieldList (quoteKey key).toList fields ↔ fields = [[key.toList]]) ∧
    Function.Injective quoteKey ∧
    ∀ sent : Table FieldValue, (maskEntries (updateQuery sent.entries)).Nodup ∧
      List.Forall₂ (fun entry key => ∀ fields, FieldList entry.toList fields ↔
        fields = [[key.toList]]) (maskEntries (updateQuery sent.entries))
        (sent.entries.map Prod.fst) := by
  refine ⟨fun key => ⟨?_, fun fields => fieldList_quoteKey_iff⟩, quoteKey_injective, ?_⟩
  · by_cases hbare : key.toList ∈ bareName.matches'
    · refine Or.inl ⟨hbare, ?_⟩
      rw [quoteKey, quoteKeyChars_of_bareName hbare, String.ofList_toList]
    · refine Or.inr ⟨hbare, key.toList.flatMap escapeInQuotes, ?_, escapes_flatMap _,
        flatMap_escapeInQuotes_eq _⟩
      rw [quoteKey, quoteKeyChars_of_not_bareName hbare, String.toList_ofList]
  · intro sent
    rw [maskEntries_updateQuery, List.forall₂_map_left_iff]
    -- The keys of a table are distinct, and names of distinct keys are.
    refine ⟨sent.ascending.nodup_keys.map quoteKey_injective, List.forall₂_same.mpr ?_⟩
    intro key _ fields
    exact fieldList_quoteKey_iff

end HomeEnergy.Remote
