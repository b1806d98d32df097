import Mathlib.Data.List.Induction
import Scaffolder.Proofs.Arguments.Agreement

/-!
# The grammar of the first look

What the first look finds, said of the arguments as they are written.

* **Items** (`Prescan.items`): the words behind the program's name are cut from the left. A value flag
  takes the word behind it, whatever it is, and the first `--` that no flag takes ends the list.
* **What items mean** (`Prescan.Means`): a grammar, which says of each item what it gives. Every item has
  exactly one meaning (`means_iff`), and it is what the first look makes of it (`cut_eq`).
* **Later items win** (`LastOr`): a field that items set has the value of the last one that sets it.
* **Cutting is local** (`items_append`): what stands behind some words does not change the items in
  them, unless the last of them still waits for its value.

`prescan_grammar` puts these together.
-/

namespace Scaffolder

open Text (RawText)

/-- A value flag as it is written before its value. -/
def ValueFlag.bare (flag : ValueFlag) : String := "--" ++ flag.long

/-- What the last element of a list gives that gives anything, or a default. -/
inductive LastOr {α β : Type} (Gives : α → β → Prop) (default : β) : List α → β → Prop where
  /-- Nothing is given. -/
  | default {xs : List α} (none : ∀ x ∈ xs, ∀ b, ¬ Gives x b) : LastOr Gives default xs default
  /-- Something is given, and nothing behind it. -/
  | last {before behind : List α} {x : α} {b : β} (here : Gives x b)
      (none : ∀ y ∈ behind, ∀ b, ¬ Gives y b) : LastOr Gives default (before ++ x :: behind) b

namespace LastOr

variable {α β σ : Type} {Gives : α → β → Prop} {d b : β} {xs : List α}

/-- An element that gives nothing makes no difference at the end. -/
theorem concat (h : LastOr Gives d xs b) {x : α} (nothing : ∀ b, ¬ Gives x b) :
    LastOr Gives d (xs ++ [x]) b := by
  cases h with
  | default none =>
    apply LastOr.default
    intro y hy
    rcases List.mem_append.1 hy with hy | hy
    · exact none y hy
    · obtain rfl := List.mem_singleton.1 hy
      exact nothing
  | last here none =>
    rw [List.append_assoc, List.cons_append]
    apply LastOr.last here
    intro y hy
    rcases List.mem_append.1 hy with hy | hy
    · exact none y hy
    · obtain rfl := List.mem_singleton.1 hy
      exact nothing

/-- **A field that elements set, and all others keep,** has the last value that it was set to. -/
theorem foldl {step : σ → α → σ} (field : σ → β) (s : σ)
    (sets : ∀ s, ∀ x ∈ xs, ∀ b, Gives x b → field (step s x) = b)
    (keeps : ∀ s, ∀ x ∈ xs, (∀ b, ¬ Gives x b) → field (step s x) = field s) :
    LastOr Gives (field s) xs (field (xs.foldl step s)) := by
  -- the list is taken from its end, where the last value is set
  induction xs using List.reverseRecOn with
  | nil => exact .default (by simp)
  | append_singleton xs x ih =>
    rw [List.foldl_append, List.foldl_cons, List.foldl_nil]
    have hx : x ∈ xs ++ [x] := by simp
    by_cases hgives : ∃ b, Gives x b
    · obtain ⟨b, hb⟩ := hgives
      rw [sets _ x hx b hb]
      exact .last hb (by simp)
    · rw [keeps _ x hx (not_exists.1 hgives)]
      refine (ih ?_ ?_).concat (not_exists.1 hgives)
      · intro s y hy
        exact sets s y (List.mem_append_left _ hy)
      · intro s y hy
        exact keeps s y (List.mem_append_left _ hy)

end LastOr

namespace Prescan

/-! ## The grammar -/

/-- The words behind the program's name. Bytes that are no text are replaced. -/
def wordsOf (argv : List RawText) : List String := argv.tail.map RawText.lossy

/-- Cuts words into items. A value flag takes the word behind it whatever it is, every other word is an
item of its own, and the first `--` that no flag takes ends the list. -/
def items : List String → List (List String)
  | [] => []
  | w :: ws =>
      if w = "--" then []
      else if w = ValueFlag.projectVersion.bare ∨ w = ValueFlag.plugins.bare then
        match ws with
        | [] => [[w]]
        | v :: ws => [w, v] :: items ws
      else [w] :: items ws

/-- Whether the last item is a value flag without a word to take. -/
def Awaits (ws : List String) : Prop := ∃ flag : ValueFlag, (items ws).getLast? = some [flag.bare]

/-- What an item means. -/
inductive Means : List String → PrescanItem → Prop where
  /-- A value flag and the word that it has taken. -/
  | separate (flag : ValueFlag) (v : String) : Means [flag.bare, v] (.valued flag (some v))
  /-- A value flag with its value behind the equals sign. -/
  | inline (flag : ValueFlag) (v : String) : Means [flag.bare ++ "=" ++ v] (.valued flag (some v))
  /-- A value flag that stands last. -/
  | dangling (flag : ValueFlag) : Means [flag.bare] (.valued flag none)
  /-- A dash and ASCII letters, an `h` among them. -/
  | cluster (letters : List Char) (alpha : ∀ c ∈ letters, c.isAlpha) (h : 'h' ∈ letters) :
      Means [String.ofList ('-' :: letters)] (.help true)
  /-- The help flag alone. -/
  | help : Means ["--help"] (.help true)
  /-- The help flag with `true`. -/
  | helpTrue : Means ["--help=true"] (.help true)
  /-- The help flag with `false`. -/
  | helpFalse : Means ["--help=false"] (.help false)
  /-- The help flag with any other value. -/
  | helpElse (v : String) (notTrue : v ≠ "true") (notFalse : v ≠ "false") :
      Means ["--help=" ++ v] .oddHelp
  /-- A word that is none of these. -/
  | other (w : String) (dashes : w ≠ "--") (bare : ∀ flag : ValueFlag, w ≠ flag.bare)
      (inline : ∀ (flag : ValueFlag) (v : String), w ≠ flag.bare ++ "=" ++ v)
      (cluster : ∀ letters : List Char, (∀ c ∈ letters, c.isAlpha) → 'h' ∈ letters →
        w ≠ String.ofList ('-' :: letters))
      (help : w ≠ "--help") (helpValue : ∀ v, w ≠ "--help=" ++ v) : Means [w] .other

/-! ## What the first look makes of a word -/

open PrescanItem (classify longParts? flagNamed? isShortHelp ofHelp)

/-- A value flag without a value waits for the next word. -/
theorem classify_bare (flag : ValueFlag) : classify flag.bare.toList = .inr flag := by
  cases flag with
  | projectVersion => decide
  | plugins => decide

/-- A long flag is cut at its first equals sign. -/
theorem longParts?_inline {name : List Char} (hname : '=' ∉ name) (value : List Char) :
    longParts? ('-' :: '-' :: (name ++ '=' :: value)) = some (name, some (String.ofList value)) := by
  have hcut : Text.cutAt '=' (name ++ '=' :: value) = some (name, value) :=
    Text.cutAt_eq_some_iff.2 ⟨rfl, hname⟩
  simp only [longParts?, hcut]

/-- A value flag with a value takes it. -/
theorem classify_inline (flag : ValueFlag) (v : String) :
    classify (flag.bare ++ "=" ++ v).toList = .inl (.valued flag (some v)) := by
  have hword : (flag.bare ++ "=" ++ v).toList = '-' :: '-' :: (flag.long.toList ++ '=' :: v.toList) := by
    simp [ValueFlag.bare]
  have hname : '=' ∉ flag.long.toList ∧ flag.long.toList ≠ "help".toList := by
    cases flag with
    | projectVersion => decide
    | plugins => decide
  have hshort : isShortHelp ('-' :: '-' :: (flag.long.toList ++ '=' :: v.toList)) = false := rfl
  rw [hword, classify, hshort, longParts?_inline hname.1]
  simp only [Bool.false_eq_true, ↓reduceIte, hname.2, Arguments.flagNamed?_long,
    String.ofList_toList]

/-- What stands behind the equals sign says whether help is asked for. -/
theorem classify_helpValue (v : String) :
    classify ("--help=" ++ v).toList = .inl (ofHelp (some v)) := by
  have hword : ("--help=" ++ v).toList = '-' :: '-' :: ("help".toList ++ '=' :: v.toList) := by
    simp
  have hshort : isShortHelp ('-' :: '-' :: ("help".toList ++ '=' :: v.toList)) = false := rfl
  rw [hword, classify, hshort, longParts?_inline (by decide)]
  simp

/-- A cluster of letters asks for help if one of them is an `h`. -/
theorem isShortHelp_iff {cs : List Char} :
    isShortHelp cs = true ↔
      ∃ letters, cs = '-' :: letters ∧ (∀ c ∈ letters, c.isAlpha) ∧ 'h' ∈ letters := by
  unfold isShortHelp
  split
  · next letters => simp
  · next hne =>
    simp only [Bool.false_eq_true, false_iff, not_exists, not_and]
    intro letters hcs
    exact absurd hcs (hne letters)

/-- The first look finds a cluster with an `h`. -/
theorem classify_cluster {letters : List Char} (alpha : ∀ c ∈ letters, c.isAlpha)
    (h : 'h' ∈ letters) : classify (String.ofList ('-' :: letters)).toList = .inl (.help true) := by
  rw [String.toList_ofList, classify, if_pos (isShortHelp_iff.2 ⟨letters, rfl, alpha, h⟩)]

/-- What is looked at as a long flag is written as one. -/
theorem eq_of_longParts? {cs name : List Char} {value : Option String}
    (h : longParts? cs = some (name, value)) :
    cs = '-' :: '-' :: (name ++ (value.map fun v => '=' :: v.toList).getD []) := by
  unfold longParts? at h
  split at h
  · next cs =>
    rcases hcut : Text.cutAt '=' cs with _ | ⟨front, back⟩
    · simp only [hcut, Option.some.injEq, Prod.mk.injEq] at h
      obtain ⟨rfl, rfl⟩ := h
      simp
    · simp only [hcut, Option.some.injEq, Prod.mk.injEq] at h
      obtain ⟨rfl, rfl⟩ := h
      rw [(Text.cutAt_eq_some_iff.1 hcut).1]
      simp
  · cases h

/-- A value flag is found by its full name only. -/
theorem eq_of_flagNamed? {name : List Char} {flag : ValueFlag} (h : flagNamed? name = some flag) :
    name = flag.long.toList := by
  unfold flagNamed? at h
  split_ifs at h with hversion hplugins
  · obtain rfl := Option.some.inj h
    exact hversion
  · obtain rfl := Option.some.inj h
    exact hplugins

/-- What is nothing to the first look is none of its flags. -/
theorem means_other {w : String} (h : classify w.toList = .inl .other) (dashes : w ≠ "--") :
    Means [w] .other := by
  apply Means.other w dashes
  · rintro flag rfl
    rw [classify_bare] at h
    cases h
  · rintro flag v rfl
    rw [classify_inline] at h
    cases h
  · rintro letters alpha hletter rfl
    rw [classify_cluster alpha hletter] at h
    cases h
  · rintro rfl
    exact absurd h (by decide)
  · rintro v rfl
    rw [classify_helpValue, ofHelp] at h
    split_ifs at h
    all_goals cases h

/-- **Every word has a meaning,** or it is a value flag that takes the next word. -/
theorem means_classify {w : String} (dashes : w ≠ "--") :
    (∃ flag, classify w.toList = .inr flag ∧ w = flag.bare) ∨
      ∃ item, classify w.toList = .inl item ∧ Means [w] item := by
  by_cases hshort : isShortHelp w.toList = true
  · obtain ⟨letters, hw, alpha, hletter⟩ := isShortHelp_iff.1 hshort
    obtain rfl : w = String.ofList ('-' :: letters) := by rw [← hw, String.ofList_toList]
    exact .inr ⟨_, classify_cluster alpha hletter, .cluster letters alpha hletter⟩
  rcases hparts : longParts? w.toList with _ | ⟨name, value⟩
  · have hother : classify w.toList = .inl .other := by simp [classify, hshort, hparts]
    exact .inr ⟨_, hother, means_other hother dashes⟩
  have hw : w = String.ofList ('-' :: '-' :: (name ++ (value.map fun v => '=' :: v.toList).getD [])) := by
    rw [← eq_of_longParts? hparts, String.ofList_toList]
  by_cases hhelp : name = "help".toList
  · subst hhelp
    have hclass : classify w.toList = .inl (ofHelp value) := by simp [classify, hshort, hparts]
    refine .inr ⟨_, hclass, ?_⟩
    rcases value with _ | v
    · rw [hw]
      exact .help
    · obtain rfl : w = "--help=" ++ v := by
        rw [hw, ← String.toList_inj]
        simp
      simp only [ofHelp]
      split_ifs with htrue hfalse
      · subst htrue
        exact .helpTrue
      · subst hfalse
        exact .helpFalse
      · exact .helpElse v htrue hfalse
  · rcases hflag : flagNamed? name with _ | flag
    · have hother : classify w.toList = .inl .other := by
        simp only [classify, hshort, hparts, hhelp, hflag, Bool.false_eq_true, ↓reduceIte]
      exact .inr ⟨_, hother, means_other hother dashes⟩
    · rw [eq_of_flagNamed? hflag] at hw
      rcases value with _ | v
      · obtain rfl : w = flag.bare := by
          rw [hw, ← String.toList_inj]
          simp [ValueFlag.bare]
        exact .inl ⟨flag, classify_bare flag, rfl⟩
      · obtain rfl : w = flag.bare ++ "=" ++ v := by
          rw [hw, ← String.toList_inj]
          simp [ValueFlag.bare]
        exact .inr ⟨_, classify_inline flag v, .inline flag v⟩

/-! ## Items and their meaning -/

/-- What the first look makes of an item. -/
def meaning : List String → PrescanItem
  | [w] =>
      match classify w.toList with
      | .inl item => item
      | .inr flag => .valued flag none
  | [w, v] =>
      match classify w.toList with
      | .inl item => item
      | .inr flag => .valued flag (some v)
  | _ => .other

/-- A word that means nothing is passed over. -/
theorem classify_of_means_other {w : String} (h : Means [w] .other) :
    classify w.toList = .inl .other := by
  cases h with
  | other _ dashes bare inline cluster help helpValue =>
    rcases means_classify dashes with ⟨flag, -, hw⟩ | ⟨item, hclass, hmeans⟩
    · exact absurd hw (bare flag)
    · generalize hitem : [w] = it at hmeans
      cases hmeans with
      | separate flag v => simp at hitem
      | inline flag v => exact absurd (List.singleton_inj.1 hitem) (inline flag v)
      | dangling flag => exact absurd (List.singleton_inj.1 hitem) (bare flag)
      | cluster letters alpha hletter =>
        exact absurd (List.singleton_inj.1 hitem) (cluster letters alpha hletter)
      | help => exact absurd (List.singleton_inj.1 hitem) help
      | helpTrue => exact absurd (List.singleton_inj.1 hitem) (helpValue "true")
      | helpFalse => exact absurd (List.singleton_inj.1 hitem) (helpValue "false")
      | helpElse v => exact absurd (List.singleton_inj.1 hitem) (helpValue v)
      | other => exact hclass

/-- The grammar is followed. -/
theorem meaning_of_means {it : List String} {item : PrescanItem} (h : Means it item) :
    meaning it = item := by
  cases h with
  | separate flag v => simp only [meaning, classify_bare]
  | inline flag v => simp only [meaning, classify_inline]
  | dangling flag => simp only [meaning, classify_bare]
  | cluster letters alpha hletter => simp only [meaning, classify_cluster alpha hletter]
  | help => rfl
  | helpTrue => rfl
  | helpFalse => rfl
  | helpElse v notTrue notFalse =>
    simp only [meaning, classify_helpValue, ofHelp, notTrue, notFalse, ↓reduceIte]
  | other w dashes bare inline cluster help helpValue =>
    have hother := Means.other w dashes bare inline cluster help helpValue
    simp only [meaning, classify_of_means_other hother]

/-- There are two value flags. -/
theorem isBare_iff {w : String} :
    (w = ValueFlag.projectVersion.bare ∨ w = ValueFlag.plugins.bare) ↔
      ∃ flag : ValueFlag, w = flag.bare := by
  constructor
  · rintro (h | h)
    · exact ⟨_, h⟩
    · exact ⟨_, h⟩
  · rintro ⟨flag, h⟩
    cases flag with
    | projectVersion => exact .inl h
    | plugins => exact .inr h

/-- Two dashes end the items. -/
theorem items_dashes (ws : List String) : items ("--" :: ws) = [] := by
  unfold items
  rw [if_pos rfl]

/-- A value flag is longer than two dashes. -/
theorem bare_ne_dashes (flag : ValueFlag) : flag.bare ≠ "--" := by
  cases flag with
  | projectVersion => decide
  | plugins => decide

/-- A value flag at the end is an item of its own. -/
theorem items_dangling (flag : ValueFlag) : items [flag.bare] = [[flag.bare]] := by
  unfold items
  rw [if_neg (bare_ne_dashes flag), if_pos (isBare_iff.2 ⟨flag, rfl⟩)]

/-- A value flag takes the next word, and then come the others. -/
theorem items_separate (flag : ValueFlag) (v : String) (ws : List String) :
    items (flag.bare :: v :: ws) = [flag.bare, v] :: items ws := by
  rw [items, if_neg (bare_ne_dashes flag), if_pos (isBare_iff.2 ⟨flag, rfl⟩)]

/-- Any other word is an item of its own. -/
theorem items_single {w : String} (dashes : w ≠ "--") (bare : ∀ flag : ValueFlag, w ≠ flag.bare)
    (ws : List String) : items (w :: ws) = [w] :: items ws := by
  have hbare : ¬ (w = ValueFlag.projectVersion.bare ∨ w = ValueFlag.plugins.bare) :=
    fun h => (isBare_iff.1 h).elim bare
  rcases ws with _ | ⟨v, ws⟩
  · rw [items.eq_2, if_neg dashes, if_neg hbare]
  · rw [items.eq_3, if_neg dashes, if_neg hbare]

/-- **Induction along the items** of a list of words. -/
theorem items_induction {motive : List String → Prop} (nil : motive [])
    (dashes : ∀ ws, motive ("--" :: ws)) (dangling : ∀ flag : ValueFlag, motive [flag.bare])
    (separate : ∀ (flag : ValueFlag) v ws, motive ws → motive (flag.bare :: v :: ws))
    (single : ∀ w ws, w ≠ "--" → (∀ flag : ValueFlag, w ≠ flag.bare) → motive ws → motive (w :: ws))
    (ws : List String) : motive ws := by
  induction ws using items.induct with
  | case1 => exact nil
  | case2 ws => exact dashes ws
  | case3 w hw hbare =>
    obtain ⟨flag, rfl⟩ := isBare_iff.1 hbare
    exact dangling flag
  | case4 w hw hbare v ws ih =>
    obtain ⟨flag, rfl⟩ := isBare_iff.1 hbare
    exact separate flag v ws ih
  | case5 w ws hw hbare ih =>
    exact single w ws hw (fun flag hflag => hbare (isBare_iff.2 ⟨flag, hflag⟩)) ih

/-- What the first look makes of an item is a meaning of it. -/
theorem means_meaning {ws it : List String} (h : it ∈ items ws) : Means it (meaning it) := by
  induction ws using items_induction with
  | nil => simp [items] at h
  | dashes ws => simp [items_dashes] at h
  | dangling flag =>
    rw [items_dangling, List.mem_singleton] at h
    rw [h, meaning_of_means (.dangling flag)]
    exact .dangling flag
  | separate flag v ws ih =>
    rw [items_separate] at h
    rcases List.mem_cons.1 h with rfl | h
    · rw [meaning_of_means (.separate flag v)]
      exact .separate flag v
    · exact ih h
  | single w ws dashes bare ih =>
    rw [items_single dashes bare] at h
    rcases List.mem_cons.1 h with rfl | h
    · rcases means_classify dashes with ⟨flag, -, hw⟩ | ⟨item, -, hmeans⟩
      · exact absurd hw (bare flag)
      · rw [meaning_of_means hmeans]
        exact hmeans
    · exact ih h

/-- **Every item has one meaning.** -/
theorem means_iff {ws it : List String} (h : it ∈ items ws) {item : PrescanItem} :
    Means it item ↔ meaning it = item := by
  constructor
  · exact meaning_of_means
  · rintro rfl
    exact means_meaning h

/-- **The first look cuts as the grammar says.** -/
theorem cut_eq (ws : List String) :
    PrescanItem.cut (ws.map String.toList) = (items ws).map meaning := by
  have toList_ne : ∀ {w : String}, w ≠ "--" → w.toList ≠ ['-', '-'] :=
    fun hw heq => hw (String.toList_inj.1 heq)
  induction ws using items_induction with
  | nil => rfl
  | dashes ws =>
    rw [items_dashes, List.map_cons]
    unfold PrescanItem.cut
    rw [if_pos (by rfl)]
    rfl
  | dangling flag =>
    rw [items_dangling, List.map_cons, List.map_nil,
      PrescanItem.cut.eq_3 _ _ (classify_bare flag), if_neg (toList_ne (bare_ne_dashes flag)),
      List.map_cons, List.map_nil, meaning_of_means (.dangling flag)]
  | separate flag v ws ih =>
    rw [items_separate, List.map_cons, List.map_cons,
      PrescanItem.cut.eq_4 _ _ _ _ (classify_bare flag), if_neg (toList_ne (bare_ne_dashes flag)), ih,
      String.ofList_toList, List.map_cons, meaning_of_means (.separate flag v)]
  | single w ws dashes bare ih =>
    rcases means_classify dashes with ⟨flag, -, hw⟩ | ⟨item, hclass, hmeans⟩
    · exact absurd hw (bare flag)
    · rw [items_single dashes bare, List.map_cons, PrescanItem.cut.eq_2 _ _ _ hclass,
        if_neg (toList_ne dashes), ih, List.map_cons, meaning_of_means hmeans]

/-- What the first look finds is what the items add one after another. -/
theorem scan_eq (argv : List RawText) :
    scan argv = (items (wordsOf argv)).foldl (fun p it => p.step (meaning it)) {} := by
  have hchars : argv.tail.map RawText.lossyChars = (wordsOf argv).map String.toList := by
    simp [wordsOf, RawText.lossy, Function.comp_def]
  unfold scan ofArguments
  rw [hchars, cut_eq, List.foldl_map]

/-! ## What stands behind -/

/-- What waits for a value does so behind further items. -/
theorem Awaits.cons {it : List String} {ws ws' : List String} (h : Awaits ws)
    (hitems : items ws' = it :: items ws) : Awaits ws' := by
  obtain ⟨flag, hlast⟩ := h
  refine ⟨flag, ?_⟩
  rw [hitems, List.getLast?_cons, hlast]
  rfl

/-- **Cutting is local.** Behind words that do not wait for a value the cutting goes on as from the
start, or it has ended already. -/
theorem items_append {ws : List String} (h : ¬ Awaits ws) :
    (∀ more, items (ws ++ more) = items ws ++ items more) ∨
      ∀ more, items (ws ++ more) = items ws := by
  induction ws using items_induction with
  | nil => exact .inl fun more => rfl
  | dashes ws =>
    right
    intro more
    rw [List.cons_append, items_dashes, items_dashes]
  | dangling flag =>
    exact absurd ⟨flag, by rw [items_dangling]; rfl⟩ h
  | separate flag v ws ih =>
    have hws : ¬ Awaits ws := fun hws => h (hws.cons (items_separate flag v ws))
    rcases ih hws with goesOn | ended
    · left
      intro more
      rw [List.cons_append, List.cons_append, items_separate, items_separate, goesOn, List.cons_append]
    · right
      intro more
      rw [List.cons_append, List.cons_append, items_separate, items_separate, ended]
  | single w ws dashes bare ih =>
    have hws : ¬ Awaits ws := fun hws => h (hws.cons (items_single dashes bare ws))
    rcases ih hws with goesOn | ended
    · left
      intro more
      rw [List.cons_append, items_single dashes bare, items_single dashes bare, goesOn, List.cons_append]
    · right
      intro more
      rw [List.cons_append, items_single dashes bare, items_single dashes bare, ended]

/-- What is known after the items of some more words. -/
def afterItems (p : Prescan) (ws : List String) : Prescan :=
  (items ws).foldl (fun p it => p.step (meaning it)) p

/-- **The first look is local.** Behind arguments that do not wait for a value it goes on with what it
has found, or it has ended already. -/
theorem scan_append {front : List RawText} (h : ¬ Awaits (front.map RawText.lossy)) (program : RawText) :
    (∃ p, ∀ more, scan (program :: (front ++ more)) = afterItems p (more.map RawText.lossy)) ∨
      ∃ p, ∀ more, scan (program :: (front ++ more)) = p := by
  have hscan : ∀ more, scan (program :: (front ++ more)) =
      afterItems {} (front.map RawText.lossy ++ more.map RawText.lossy) := by
    intro more
    rw [scan_eq, wordsOf, List.tail_cons, List.map_append]
    rfl
  rcases items_append h with goesOn | ended
  · left
    refine ⟨afterItems {} (front.map RawText.lossy), fun more => ?_⟩
    rw [hscan, afterItems, goesOn, List.foldl_append]
    rfl
  · right
    refine ⟨afterItems {} (front.map RawText.lossy), fun more => ?_⟩
    rw [hscan, afterItems, ended]
    rfl

/-- A value flag sets its value, and then come the others. -/
theorem afterItems_separate (p : Prescan) (flag : ValueFlag) (v : String) (ws : List String) :
    p.afterItems (flag.bare :: v :: ws) = (p.step (.valued flag (some v))).afterItems ws := by
  rw [afterItems, items_separate, List.foldl_cons, meaning_of_means (.separate flag v)]
  rfl

/-- Any other item does what it means, and then come the others. -/
theorem afterItems_single (p : Prescan) {w : String} {item : PrescanItem} (h : Means [w] item)
    (dashes : w ≠ "--") (bare : ∀ flag : ValueFlag, w ≠ flag.bare) (ws : List String) :
    p.afterItems (w :: ws) = (p.step item).afterItems ws := by
  rw [afterItems, items_single dashes bare, List.foldl_cons, meaning_of_means h]
  rfl

/-- A flag with its value in one word adds what it adds in two. -/
theorem afterItems_inline (p : Prescan) (flag : ValueFlag) (v : String) (ws : List String) :
    p.afterItems ((flag.bare ++ "=" ++ v) :: ws) =
      (p.step (.valued flag (some v))).afterItems ws := by
  apply afterItems_single p (.inline flag v)
  · intro hw
    have hclass := classify_inline flag v
    have hdashes : classify "--".toList = .inl .other := by decide
    rw [hw, hdashes] at hclass
    cases hclass
  · intro other hw
    have hclass := classify_inline flag v
    rw [hw, classify_bare] at hclass
    cases hclass

/-- A word that is no flag adds nothing. -/
theorem afterItems_other (p : Prescan) {w : String} (h : Means [w] .other) (ws : List String) :
    p.afterItems (w :: ws) = p.afterItems ws := by
  have hother := h
  cases h with
  | other _ dashes bare => exact afterItems_single p hother dashes bare ws

/-- A flag that has no value is the last item. -/
theorem awaits_iff {ws : List String} :
    Awaits ws ↔ ∃ it ∈ items ws, ∃ flag, Means it (.valued flag none) := by
  constructor
  · rintro ⟨flag, hlast⟩
    exact ⟨_, List.mem_of_getLast? hlast, flag, .dangling flag⟩
  · rintro ⟨it, hit, flag, hmeans⟩
    cases hmeans
    induction ws using items_induction with
    | nil => simp [items] at hit
    | dashes ws => simp [items_dashes] at hit
    | dangling other =>
      rw [items_dangling, List.mem_singleton] at hit
      exact ⟨flag, by rw [items_dangling, hit]; rfl⟩
    | separate other v ws ih =>
      rw [items_separate] at hit
      rcases List.mem_cons.1 hit with heq | hit
      · simp at heq
      · exact (ih hit).cons (items_separate other v ws)
    | single w ws dashes bare ih =>
      rw [items_single dashes bare] at hit
      rcases List.mem_cons.1 hit with heq | hit
      · exact absurd (List.singleton_inj.1 heq).symm (bare flag)
      · exact (ih hit).cons (items_single dashes bare ws)

/-! ## Main result -/

/-- **A field that one kind of item sets** has the value of the last item of that kind. -/
theorem scan_last {β : Type} (field : Prescan → β) (give : β → PrescanItem) (argv : List RawText)
    (sets : ∀ (p : Prescan) b, field (p.step (give b)) = b)
    (keeps : ∀ (p : Prescan) item, (∀ b, item ≠ give b) → field (p.step item) = field p) :
    LastOr (fun it b => Means it (give b)) (field {}) (items (wordsOf argv)) (field (scan argv)) := by
  rw [scan_eq]
  apply LastOr.foldl field
  · intro p it hit b hb
    rw [meaning_of_means hb]
    exact sets p b
  · intro p it hit hnone
    apply keeps
    intro b hb
    exact hnone b ((means_iff hit).2 hb)

/-- **A mark that some items set,** and none takes back, is there if one of them has come. -/
theorem scan_mark_iff (mark : Prescan → Bool) (Sets : PrescanItem → Prop) (argv : List RawText)
    (empty : mark {} = false)
    (step_mark : ∀ (p : Prescan) item, mark (p.step item) = true ↔ mark p = true ∨ Sets item) :
    mark (scan argv) = true ↔ ∃ it ∈ items (wordsOf argv), Sets (meaning it) := by
  have hfold : ∀ (its : List (List String)) (p : Prescan),
      mark (its.foldl (fun (p : Prescan) it => p.step (meaning it)) p) = true ↔
        mark p = true ∨ ∃ it ∈ its, Sets (meaning it) := by
    intro its
    induction its with
    | nil => simp
    | cons it its ih =>
      intro p
      rw [List.foldl_cons, ih, step_mark]
      simp only [List.mem_cons, exists_eq_or_imp, or_assoc]
  rw [scan_eq, hfold]
  simp [empty]

/-- Only a value of the version flag changes the version. -/
theorem version_step (p : Prescan) (default : ProjectVersion) (item : PrescanItem)
    (h : ∀ v : ProjectVersion, item ≠ .valued .projectVersion (some v.text)) :
    (p.step item).version default = p.version default := by
  rcases item with ⟨_ | _, _ | v⟩ | wanted | _ | _
  · rfl
  · exact absurd rfl (h ⟨v⟩)
  all_goals rfl

/-- Only a value of the plugin flag changes the key. -/
theorem rawKey_step (p : Prescan) (item : PrescanItem)
    (h : ∀ key, item ≠ .valued .plugins (some key)) : (p.step item).rawKey = p.rawKey := by
  rcases item with ⟨_ | _, _ | key⟩ | wanted | _ | _
  · rfl
  · rfl
  · rfl
  · exact absurd rfl (h key)
  all_goals rfl

/-- Only what asks for help changes whether help is wanted. -/
theorem help_step (p : Prescan) (item : PrescanItem) (h : ∀ wanted, item ≠ .help wanted) :
    (p.step item).help = p.help := by
  rcases item with ⟨_ | _, _ | v⟩ | wanted | _ | _
  · rfl
  · rfl
  · rfl
  · rfl
  · exact absurd rfl (h wanted)
  all_goals rfl

/-- A version is asked for once the version flag has a value. -/
theorem versionSet_step (p : Prescan) (item : PrescanItem) :
    (p.step item).versionSet = true ↔
      p.versionSet = true ∨ ∃ v, item = .valued .projectVersion (some v) := by
  rcases item with ⟨_ | _, _ | v⟩ | wanted | _ | _
  all_goals simp [step, versionSet]

/-- Something is wrong once a flag has no value or an odd one. -/
theorem malformed_step (p : Prescan) (item : PrescanItem) :
    (p.step item).malformed = true ↔
      p.malformed = true ∨ item = .oddHelp ∨ ∃ flag, item = .valued flag none := by
  rcases item with ⟨_ | _, _ | v⟩ | wanted | _ | _
  all_goals simp [step]

/-- **The first look follows its grammar,** for every argument list and every default version.

1. The version is the value of the last `--project-version` that has one, else the default. It counts as
   set if there is such a flag.
2. The plugin key is the value of the last `--plugins` that has one, without the blanks around it, else
   empty.
3. Whether help is asked for is said by the last help flag with a truth value or without a value, or the
   last cluster of letters with an `h`. Without any of these it is not.
4. The help to show is the general one if a help flag has another value, or a value flag stands last
   and has nothing to take, or help is asked for and no version is set.
5. A value flag finds the same value behind an equals sign and in the next argument.
6. An argument that is none of these flags makes no difference, between any two items. -/
theorem prescan_grammar (argv : List RawText) (default : ProjectVersion) :
    (LastOr (fun it v => Means it (.valued .projectVersion (some v.text))) default
        (items (wordsOf argv)) ((scan argv).version default) ∧
      ((scan argv).versionSet = true ↔
        ∃ it ∈ items (wordsOf argv), ∃ v, Means it (.valued .projectVersion (some v)))) ∧
    (∃ raw, LastOr (fun it key => Means it (.valued .plugins (some key))) "" (items (wordsOf argv)) raw ∧
      (scan argv).key = Text.trim raw) ∧
    LastOr (fun it wanted => Means it (.help wanted)) false (items (wordsOf argv)) (scan argv).help ∧
    ((scan argv).genericHelp = true ↔
      (∃ it ∈ items (wordsOf argv), Means it .oddHelp) ∨ Awaits (wordsOf argv) ∨
        (scan argv).help = true ∧ (scan argv).versionSet = false) ∧
    (∀ (program : RawText) (front back : List RawText) (flag : ValueFlag) (v : String)
        (a b c : RawText), ¬ Awaits (front.map RawText.lossy) →
      a.lossy = flag.bare ++ "=" ++ v → b.lossy = flag.bare → c.lossy = v →
        scan (program :: (front ++ b :: c :: back)) = scan (program :: (front ++ a :: back))) ∧
    ∀ (program : RawText) (front back : List RawText) (a : RawText),
      ¬ Awaits (front.map RawText.lossy) → Means [a.lossy] .other →
        scan (program :: (front ++ a :: back)) = scan (program :: (front ++ back)) := by
  have hmalformed : (scan argv).malformed = true ↔
      (∃ it ∈ items (wordsOf argv), Means it .oddHelp) ∨ Awaits (wordsOf argv) := by
    rw [scan_mark_iff Prescan.malformed _ argv rfl malformed_step, awaits_iff]
    simp only [and_or_left, exists_or]
    apply or_congr
    · exact exists_congr fun it => and_congr_right fun hit => (means_iff hit).symm
    · refine exists_congr fun it => and_congr_right fun hit => exists_congr fun flag => ?_
      exact (means_iff hit).symm
  refine ⟨⟨?_, ?_⟩, ?_, ?_, ?_, ?_, ?_⟩
  · apply scan_last (fun p => p.version default) fun v => .valued .projectVersion (some v.text)
    · intro p v
      rfl
    · intro p item
      exact version_step p default item
  · rw [scan_mark_iff versionSet _ argv rfl versionSet_step]
    refine exists_congr fun it => and_congr_right fun hit => exists_congr fun v => ?_
    exact (means_iff hit).symm
  · refine ⟨(scan argv).rawKey, ?_, rfl⟩
    apply scan_last Prescan.rawKey fun key => .valued .plugins (some key)
    · intro p key
      rfl
    · exact rawKey_step
  · apply scan_last Prescan.help .help
    · intro p wanted
      rfl
    · exact help_step
  · unfold genericHelp
    rw [Bool.or_eq_true, hmalformed, or_assoc, Bool.and_eq_true, Bool.not_eq_true']
  · intro program front back flag v a b c notAwaiting ha hb hc
    rcases scan_append notAwaiting program with ⟨p, goesOn⟩ | ⟨p, ended⟩
    · rw [goesOn, goesOn, List.map_cons, List.map_cons, List.map_cons, ha, hb, hc,
        afterItems_separate, afterItems_inline]
    · rw [ended, ended]
  · intro program front back a notAwaiting hother
    rcases scan_append notAwaiting program with ⟨p, goesOn⟩ | ⟨p, ended⟩
    · rw [goesOn, goesOn, List.map_cons, afterItems_other p hother]
    · rw [ended, ended]

/-- A `--` that `--plugins` has taken ends nothing: the version behind it is found, in one word or in two,
and with `init` before it or without. -/
theorem prescan_grammar_taken_dashes :
    ¬ Awaits ["--plugins", "--"] ∧
      scan (["scaffold", "--plugins", "--", "--project-version", "3-alpha"].map RawText.ofString) =
        scan (["scaffold", "--plugins", "--", "--project-version=3-alpha"].map RawText.ofString) ∧
      scan (["scaffold", "--plugins", "--", "init", "--project-version=3-alpha"].map RawText.ofString) =
        scan (["scaffold", "--plugins", "--", "--project-version=3-alpha"].map RawText.ofString) ∧
      (scan (["scaffold", "--plugins", "--", "--project-version=3-alpha"].map
        RawText.ofString)).version ⟨"2"⟩ = ⟨"3-alpha"⟩ := by
  obtain ⟨-, -, -, -, inTwo, inserted⟩ := prescan_grammar [] ⟨"2"⟩
  have notAwaiting : ¬ Awaits ["--plugins", "--"] := by
    rintro ⟨flag, hlast⟩
    cases flag with
    | projectVersion => exact absurd hlast (by decide)
    | plugins => exact absurd hlast (by decide)
  have hinit : Means [(RawText.ofString "init").lossy] .other := means_other (by decide) (by decide)
  refine ⟨notAwaiting, ?_, ?_, by decide⟩
  · exact inTwo (.ofString "scaffold") (["--plugins", "--"].map RawText.ofString) [] .projectVersion
      "3-alpha" (.ofString "--project-version=3-alpha") (.ofString "--project-version")
      (.ofString "3-alpha") notAwaiting (by decide) (by decide) (by decide)
  · exact inserted (.ofString "scaffold") (["--plugins", "--"].map RawText.ofString)
      [.ofString "--project-version=3-alpha"] (.ofString "init") notAwaiting hinit

end Prescan

end Scaffolder
