import Scaffolder.Arguments.Prescan
import Scaffolder.Proofs.Arguments.Reading

/-!
# The first look and the matching agree

Two readers see the same arguments. The first look knows two flags and nothing of the commands; the
matching knows the commands, which are chosen by what the first look has found. Where the arguments
are accepted, the two have found the same.

* **Arguments one by one.** What looks plain to the matching is nothing to the first look
  (`classify_of_plain`), and a long flag has the same name and value for both (`classify_of_long`).
* **The invariant** (`Prescan.Knows`): the first look knows what is recorded so far, and has seen
  nothing wrong. Each step of a reading keeps it (`knows_of_reads`).
-/

namespace Scaffolder

open Text (Glyph RawText)

/-! ## Flags -/

/-- The names that are kept for the flags of every run. -/
def reservedNames : List String := ["help", ValueFlag.projectVersion.long, ValueFlag.plugins.long]

namespace Argument

/-- Whether an argument is one of the two flags that the first look finds. -/
def IsFlag (a : Argument) (flag : ValueFlag) : Prop := a.kind = .option flag.long ∧ a.id = flag.long

/-- Whether an argument is a long one that has nothing to do with the flags of every run. -/
def Ordinary (a : Argument) : Prop :=
  (∃ long ∉ reservedNames, a.long? = some long) ∧ a.id ∉ reservedNames

/-- Whether an argument is a flag of every run or has nothing to do with them. -/
def Tame (a : Argument) : Prop := (∃ flag, a.IsFlag flag) ∨ a.Ordinary

/-- A tame argument takes no rest. -/
theorem Tame.kind_ne_rest {a : Argument} (h : a.Tame) : a.kind ≠ .rest := by
  intro hrest
  rcases h with ⟨flag, hkind, _⟩ | ⟨⟨long, _, hlong⟩, _⟩
  · rw [hrest] at hkind
    cases hkind
  · unfold long? at hlong
    rw [hrest] at hlong
    cases hlong

end Argument

/-- The two flags have different names. -/
theorem ValueFlag.long_injective : Function.Injective ValueFlag.long := by
  intro flag other h
  cases flag
  all_goals cases other
  all_goals first
    | rfl
    | exact absurd h (by decide)

/-- Whether a word is nothing to the first look. -/
def Prescan.PassesOver (word : String) : Prop :=
  PrescanItem.classify word.toList = .inl .other ∧ word ≠ "--"

/-- Whether a command knows no arguments but tame ones, and the first look passes over the names of its
subcommands. -/
def Command.Tame (c : Command) : Prop :=
  (∀ a ∈ c.arguments, a.Tame) ∧ ∀ sub ∈ c.subcommands, Prescan.PassesOver sub.name

namespace Arguments

/-! ## Arguments one by one -/

/-- A text that can be read is read as it is. -/
theorem lossyChars_of_text? {gs : RawText} {s : String} (h : gs.text? = some s) :
    gs.lossyChars = s.toList := by
  obtain ⟨cs, hcs, rfl⟩ := Option.map_eq_some_iff.1 h
  rw [String.toList_ofList]
  induction gs generalizing cs with
  | nil =>
    obtain rfl := Option.some.inj hcs
    rfl
  | cons g gs ih =>
    cases g with
    | broken bytes => cases hcs
    | char c =>
      obtain ⟨cs', hcs', rfl⟩ := Option.map_eq_some_iff.1 hcs
      have hrest := ih cs' hcs' (by unfold RawText.text?; rw [hcs']; rfl)
      unfold RawText.lossyChars at hrest ⊢
      rw [List.map_cons, hrest]

/-- A text that can be read is read as it is, glyph by glyph and as a whole. -/
theorem lossy_of_text? {gs : RawText} {s : String} (h : gs.text? = some s) : gs.lossy = s := by
  unfold RawText.lossy
  rw [lossyChars_of_text? h, String.ofList_toList]

/-- Both readers cut at the first equals sign. -/
theorem cutAt_lossyChars (gs : RawText) :
    Text.cutAt '=' gs.lossyChars =
      (cutAtEquals gs).2.map fun value => ((cutAtEquals gs).1.lossyChars, value.lossyChars) := by
  induction gs with
  | nil => rfl
  | cons g gs ih =>
    by_cases hg : g = .char '='
    · subst hg
      rfl
    · have hhead : ∃ c, c ≠ '=' ∧ ∀ rest : RawText,
          RawText.lossyChars (g :: rest) = c :: rest.lossyChars := by
        cases g with
        | broken bytes => exact ⟨'\uFFFD', by decide, fun _ => rfl⟩
        | char c => exact ⟨c, fun hc => hg (hc ▸ rfl), fun _ => rfl⟩
      obtain ⟨c, hc, hcons⟩ := hhead
      have hcut : cutAtEquals (g :: gs) = (g :: (cutAtEquals gs).1, (cutAtEquals gs).2) := by
        rw [cutAtEquals, if_neg hg]
      rw [hcons, Text.cutAt, if_neg hc, ih, hcut, Option.map_map]
      congr 1
      funext value
      exact congrArg (·, _) (hcons _).symm

/-- A word without an equals sign is not cut. -/
theorem cutAtEquals_of_none {gs : RawText} (h : (cutAtEquals gs).2 = none) :
    (cutAtEquals gs).1 = gs := by
  induction gs with
  | nil => rfl
  | cons g gs ih =>
    unfold cutAtEquals at h ⊢
    split_ifs at h ⊢ with hg
    exact congrArg (g :: ·) (ih h)

/-- An argument that looks like a long flag starts with two dashes, and something follows. -/
theorem exists_of_look_long {arg name : RawText} {value : Option RawText}
    (seen : look arg = .long name value) :
    ∃ gs : RawText, gs ≠ [] ∧ arg = .char '-' :: .char '-' :: gs ∧ cutAtEquals gs = (name, value) := by
  unfold look at seen
  split at seen
  · cases seen
  · next gs hne =>
    obtain ⟨rfl, rfl⟩ := Look.long.inj seen
    exact ⟨gs, fun hgs => hne (hgs ▸ rfl), rfl, rfl⟩
  · cases seen
  · cases seen

/-- A long flag has the same name and value for both readers. -/
theorem longParts?_of_look {arg name : RawText} {value : Option RawText}
    (seen : look arg = .long name value) :
    PrescanItem.longParts? arg.lossyChars = some (name.lossyChars, value.map RawText.lossy) := by
  obtain ⟨gs, _, rfl, hcut⟩ := exists_of_look_long seen
  change PrescanItem.longParts? ('-' :: '-' :: gs.lossyChars) = _
  rw [PrescanItem.longParts?, cutAt_lossyChars, hcut]
  cases value with
  | none =>
    have hnone : (cutAtEquals gs).2 = none := by rw [hcut]
    have hname : name = gs := by
      have h := cutAtEquals_of_none hnone
      rw [hcut] at h
      exact h
    rw [hname]
    rfl
  | some value => rfl

/-- **A long flag** is looked at by its name. -/
theorem classify_of_long {arg name : RawText} {value : Option RawText} {long : String}
    (seen : look arg = .long name value) (named : name.text? = some long) (nohelp : long ≠ "help") :
    PrescanItem.classify arg.lossyChars =
      match PrescanItem.flagNamed? long.toList, value.map RawText.lossy with
      | none, _ => .inl .other
      | some flag, some value => .inl (.valued flag (some value))
      | some flag, none => .inr flag := by
  have hparts := longParts?_of_look seen
  have hshort : PrescanItem.isShortHelp arg.lossyChars = false := by
    obtain ⟨gs, _, rfl, _⟩ := exists_of_look_long seen
    rfl
  have hname : long.toList ≠ "help".toList := fun h => nohelp (String.toList_inj.1 h)
  unfold PrescanItem.classify
  rw [hshort, hparts, lossyChars_of_text? named]
  cases hflag : PrescanItem.flagNamed? long.toList with
  | none => simp only [Bool.false_eq_true, ↓reduceIte, hname, hflag]
  | some flag => cases value <;> simp only [Bool.false_eq_true, ↓reduceIte, hname, hflag, Option.map]

/-- A long flag is longer than two dashes. -/
theorem ne_dashes_of_long {arg name : RawText} {value : Option RawText}
    (seen : look arg = .long name value) : arg.lossyChars ≠ ['-', '-'] := by
  obtain ⟨gs, hgs, rfl, _⟩ := exists_of_look_long seen
  intro h
  have hnil : gs.lossyChars = [] := (List.cons.inj (List.cons.inj h).2).2
  exact hgs (List.map_eq_nil_iff.1 hnil)

/-- A flag is found by its name. -/
theorem flagNamed?_long (flag : ValueFlag) :
    PrescanItem.flagNamed? flag.long.toList = some flag := by
  cases flag with
  | projectVersion => decide
  | plugins => decide

/-- No flag is found by a name that is not kept. -/
theorem flagNamed?_of_notMem {long : String} (h : long ∉ reservedNames) :
    PrescanItem.flagNamed? long.toList = none := by
  unfold reservedNames at h
  simp only [List.mem_cons, List.not_mem_nil, or_false, not_or] at h
  unfold PrescanItem.flagNamed?
  rw [if_neg fun he => h.2.1 (String.toList_inj.1 he), if_neg fun he => h.2.2 (String.toList_inj.1 he)]

/-- A word that starts with no dash means nothing to the first look. -/
theorem classify_of_head {c : Char} (cs : List Char) (hc : c ≠ '-') :
    PrescanItem.classify (c :: cs) = .inl .other := by
  have hshort : PrescanItem.isShortHelp (c :: cs) = false := by
    unfold PrescanItem.isShortHelp
    split
    · next heq => exact absurd (List.cons.inj heq).1 hc
    · rfl
  have hparts : PrescanItem.longParts? (c :: cs) = none := by
    unfold PrescanItem.longParts?
    split
    · next heq => exact absurd (List.cons.inj heq).1 hc
    · rfl
  unfold PrescanItem.classify
  rw [hshort, hparts]
  rfl

/-- What looks plain is nothing to the first look. -/
theorem classify_of_plain {arg : RawText} (plain : look arg = .plain) :
    PrescanItem.classify arg.lossyChars = .inl .other ∧ arg.lossyChars ≠ ['-', '-'] := by
  have of_head : ∀ (g : Glyph) (gs : RawText), g ≠ .char '-' → arg = g :: gs →
      PrescanItem.classify arg.lossyChars = .inl .other ∧ arg.lossyChars ≠ ['-', '-'] := by
    rintro g gs hg rfl
    have hhead : ∃ c, c ≠ '-' ∧ RawText.lossyChars (g :: gs) = c :: RawText.lossyChars gs := by
      cases g with
      | broken bytes => exact ⟨'\uFFFD', by decide, rfl⟩
      | char c => exact ⟨c, fun hc => hg (hc ▸ rfl), rfl⟩
    obtain ⟨c, hc, hcons⟩ := hhead
    rw [hcons]
    exact ⟨classify_of_head _ hc, fun heq => hc (List.cons.inj heq).1⟩
  rcases arg with _ | ⟨g, _ | ⟨g', gs⟩⟩
  · exact ⟨by decide, by decide⟩
  · by_cases hg : g = .char '-'
    · subst hg
      exact ⟨by decide, by decide⟩
    · exact of_head g [] hg rfl
  · by_cases hg : g = .char '-'
    · subst hg
      unfold look at plain
      split at plain
      · cases plain
      · cases plain
      · cases plain
      · next hshort => exact absurd rfl (hshort g' gs)
    · exact of_head g (g' :: gs) hg rfl

end Arguments

/-! ## The invariant -/

namespace Prescan

/-- What is known after some more arguments. -/
def after (p : Prescan) (words : List (List Char)) : Prescan := (PrescanItem.cut words).foldl step p

/-- Whether the first look knows the values that are recorded for its two flags, and has seen nothing
wrong. -/
structure Knows (p : Prescan) (recorded : ValueFlag → Option (List String)) : Prop where
  /-- The version that is asked for is the one recorded. -/
  requested : p.requested = ((recorded .projectVersion).bind List.head?).map ProjectVersion.mk
  /-- The key is the one recorded. -/
  rawKey : p.rawKey = ((recorded .plugins).bind List.head?).getD ""
  /-- No help is asked for. -/
  help : p.help = false
  /-- Each flag is written as it has to be. -/
  malformed : p.malformed = false
  /-- What is recorded has a value. -/
  hasValue : ∀ flag, recorded flag ≠ some []

variable {p : Prescan} {word : List Char} {words : List (List Char)}

/-- The first look takes a word for what it is and goes on. -/
theorem after_cons_of_item {item : PrescanItem} (h : PrescanItem.classify word = .inl item)
    (hne : word ≠ ['-', '-']) : p.after (word :: words) = (p.step item).after words := by
  unfold after
  rw [PrescanItem.cut.eq_2 _ _ _ h, if_neg hne, List.foldl_cons]

/-- The first look takes a flag with the word behind it and goes on. -/
theorem after_cons_of_flag {flag : ValueFlag} {value : List Char}
    (h : PrescanItem.classify word = .inr flag) (hne : word ≠ ['-', '-']) :
    p.after (word :: value :: words) =
      (p.step (.valued flag (some (String.ofList value)))).after words := by
  unfold after
  rw [PrescanItem.cut.eq_4 _ _ _ _ h, if_neg hne, List.foldl_cons]

/-- The first look ends at two dashes. -/
theorem after_dashes : p.after (['-', '-'] :: words) = p := by
  unfold after PrescanItem.cut
  rw [if_pos rfl, List.foldl_nil]

/-- A value is known as soon as it is seen, whatever was known before. -/
theorem Knows.step {before recorded : ValueFlag → Option (List String)} (h : p.Knows before)
    {flag : ValueFlag} {text : String} (here : recorded flag = some [text])
    (elsewhere : ∀ other, other ≠ flag → recorded other = before other) :
    (p.step (.valued flag (some text))).Knows recorded := by
  have hvalue : ∀ other, recorded other ≠ some [] := by
    intro other
    by_cases heq : other = flag
    · rw [heq, here]
      simp
    · rw [elsewhere other heq]
      exact h.hasValue other
  cases flag with
  | projectVersion =>
    refine ⟨?_, ?_, h.help, h.malformed, hvalue⟩
    · rw [here]
      rfl
    · rw [elsewhere .plugins (by decide)]
      exact h.rawKey
  | plugins =>
    refine ⟨?_, ?_, h.help, h.malformed, hvalue⟩
    · rw [elsewhere .projectVersion (by decide)]
      exact h.requested
    · rw [here]
      rfl

end Prescan

namespace Arguments

/-- An argument that is found by a long name has that name. -/
theorem of_findLong {args : List Argument} {name : RawText} {a : Argument}
    (h : findLong args name = some a) : ∃ s, name.text? = some s ∧ a ∈ args ∧ a.long? = some s := by
  obtain ⟨s, hs, hfind⟩ := Option.bind_eq_some_iff.1 h
  exact ⟨s, hs, List.mem_of_find?_eq_some hfind, by simpa using List.find?_some hfind⟩

/-- What is given to a command further in comes first. -/
theorem innermost?_cons (m : MatchedCommand) (ms : List MatchedCommand) (id : String) :
    innermost? (m :: ms) id = (innermost? ms id).or (m.given.lookup id) := by
  unfold innermost?
  rw [List.reverse_cons, List.findSome?_append, List.findSome?_singleton]

/-- The names of the two flags are kept. -/
theorem long_mem_reservedNames (flag : ValueFlag) : flag.long ∈ reservedNames := by
  cases flag with
  | projectVersion => decide
  | plugins => decide

/-- With one command, what is given is what is given to it. -/
theorem innermost?_singleton (m : MatchedCommand) (id : String) :
    innermost? [m] id = m.given.lookup id := by
  unfold innermost?
  rw [List.reverse_singleton, List.findSome?_singleton]

/-- What looks like two dashes is two dashes. -/
theorem lossyChars_of_dashes {arg : RawText} (seen : look arg = .dashes) :
    arg.lossyChars = ['-', '-'] := by
  unfold look at seen
  split at seen
  · rfl
  all_goals cases seen

/-- All arguments that a command knows are tame, its own and those that it inherits. -/
theorem tame_of_mem_known {inherited : List Argument} {c : Command}
    (inherit : ∀ a ∈ inherited, a.Tame) (tree : c.Throughout Command.Tame) {a : Argument}
    (ha : a ∈ known inherited c) : a.Tame := by
  rcases List.mem_append.1 ha with ha | ha
  · exact tree.here.1 a ha
  · exact inherit a ha

/-! ## Readings -/

/-- The first look passes over an argument that has nothing to do with its flags. -/
theorem classify_of_ordinary {arg name : RawText} {value : Option RawText} {long : String}
    {a : Argument} (seen : look arg = .long name value) (named : name.text? = some long)
    (ordinary : a.Ordinary) (hlong : a.long? = some long) :
    PrescanItem.classify arg.lossyChars = .inl .other := by
  obtain ⟨⟨long', hnot, hlong'⟩, _⟩ := ordinary
  obtain rfl := Option.some.inj (hlong'.symm.trans hlong)
  have nohelp : long' ≠ "help" := by
    rintro rfl
    exact hnot (by decide)
  rw [classify_of_long seen named nohelp, flagNamed?_of_notMem hnot]

/-- A flag with its value is found by its name. -/
theorem classify_of_isFlag {arg name : RawText} {value : Option RawText} {long : String}
    {a : Argument} {flag : ValueFlag} (seen : look arg = .long name value)
    (named : name.text? = some long) (isFlag : a.IsFlag flag) (hlong : a.long? = some long) :
    PrescanItem.classify arg.lossyChars =
      match value with
      | some value => .inl (.valued flag (some value.lossy))
      | none => .inr flag := by
  have hname : long = flag.long := by
    unfold Argument.long? at hlong
    rw [isFlag.1] at hlong
    exact (Option.some.inj hlong).symm
  subst hname
  have nohelp : flag.long ≠ "help" := by
    cases flag with
    | projectVersion => decide
    | plugins => decide
  rw [classify_of_long seen named nohelp, flagNamed?_long]
  cases value with
  | none => rfl
  | some value => rfl

/-- What is given for another argument does not count for a flag. -/
theorem lookup_concat_of_ordinary {a : Argument} (ordinary : a.Ordinary)
    {given : List (String × List String)} {values : List String} (flag : ValueFlag) :
    (given ++ [(a.id, values)]).lookup flag.long = given.lookup flag.long := by
  have hne : flag.long ≠ a.id := fun h => ordinary.2 (h ▸ long_mem_reservedNames flag)
  rw [List.lookup_append, List.lookup_cons, beq_false_of_ne hne]
  exact Option.or_none

/-- Both readers take down a value of a flag. -/
theorem knows_of_stored {p : Prescan} {given : List (String × List String)}
    {around : ValueFlag → Option (List String)} {a : Argument} {flag : ValueFlag} {text : String}
    (h : p.Knows fun flag => (given.lookup flag.long).or (around flag)) (isFlag : a.IsFlag flag)
    (free : given.lookup a.id = none) :
    (p.step (.valued flag (some text))).Knows fun flag =>
      ((given ++ [(a.id, [text])]).lookup flag.long).or (around flag) := by
  refine h.step ?_ fun other hne => ?_
  · rw [List.lookup_append, ← isFlag.2, free, List.lookup_cons_self]
    rfl
  · have hlong : other.long ≠ a.id := by
      rw [isFlag.2]
      exact fun heq => hne (ValueFlag.long_injective heq)
    rw [List.lookup_append, List.lookup_cons, beq_false_of_ne hlong]
    congr 1
    exact Option.or_none

/-- **A reading keeps what the first look knows.** The values of the flags at the commands around are
known already; those at the commands of the reading come in front of them, the innermost first. -/
theorem knows_of_reads {inherited : List Argument} {c : Command}
    {given : List (String × List String)} {args : List RawText} {levels : List MatchedCommand}
    (read : Reads inherited c given args levels) (inherit : ∀ a ∈ inherited, a.Tame)
    (tree : c.Throughout Command.Tame) {p : Prescan} {around : ValueFlag → Option (List String)}
    (h : p.Knows fun flag => (given.lookup flag.long).or (around flag)) :
    (p.after (args.map RawText.lossyChars)).Knows fun flag =>
      (innermost? levels flag.long).or (around flag) := by
  induction read generalizing p around with
  | @nothing inherited c given =>
    simp only [innermost?_singleton]
    exact h
  | @dashes inherited c given arg seen =>
    rw [List.map_cons, lossyChars_of_dashes seen, Prescan.after_dashes]
    simp only [innermost?_singleton]
    exact h
  | @command inherited c sub given arg name rest below seen found read ih =>
    have hname : sub.name = name := by simpa using List.find?_some found
    have hsub := List.mem_of_find?_eq_some found
    have hpasses := tree.here.2 sub hsub
    rw [hname] at hpasses
    rw [List.map_cons, lossyChars_of_text? seen,
      Prescan.after_cons_of_item hpasses.1 fun h => hpasses.2 (String.toList_inj.1 h)]
    simp only [innermost?_cons, Option.or_assoc]
    apply ih
    · intro a ha
      exact tame_of_mem_known inherit tree (List.mem_filter.1 ha).1
    · exact tree.of_mem hsub
    · exact h
  | @switch inherited c given arg name a rest levels seen found free read alone ih =>
    obtain ⟨long, hname, ha, hlong⟩ := of_findLong found
    rcases tame_of_mem_known inherit tree ha with ⟨flag, hkind, _⟩ | hordinary
    · unfold Argument.takesValue at alone
      rw [hkind] at alone
      cases alone
    · rw [List.map_cons, Prescan.after_cons_of_item (classify_of_ordinary seen hname hordinary hlong)
        (ne_dashes_of_long seen)]
      apply ih inherit tree
      simp only [lookup_concat_of_ordinary hordinary]
      exact h
  | @inline inherited c given arg name value a text rest levels seen found free read isText ih =>
    obtain ⟨long, hname, ha, hlong⟩ := of_findLong found
    rcases tame_of_mem_known inherit tree ha with ⟨flag, hflag⟩ | hordinary
    · rw [List.map_cons, Prescan.after_cons_of_item (classify_of_isFlag seen hname hflag hlong)
        (ne_dashes_of_long seen), lossy_of_text? isText]
      exact ih inherit tree (knows_of_stored h hflag free)
    · rw [List.map_cons, Prescan.after_cons_of_item (classify_of_ordinary seen hname hordinary hlong)
        (ne_dashes_of_long seen)]
      apply ih inherit tree
      simp only [lookup_concat_of_ordinary hordinary]
      exact h
  | @separate inherited c given arg name value a text rest levels seen found free read isText plain
      ih =>
    obtain ⟨long, hname, ha, hlong⟩ := of_findLong found
    rcases tame_of_mem_known inherit tree ha with ⟨flag, hflag⟩ | hordinary
    · rw [List.map_cons, List.map_cons,
        Prescan.after_cons_of_flag (classify_of_isFlag seen hname hflag hlong)
          (ne_dashes_of_long seen),
        lossyChars_of_text? isText, String.ofList_toList]
      exact ih inherit tree (knows_of_stored h hflag free)
    · rw [List.map_cons, List.map_cons,
        Prescan.after_cons_of_item (classify_of_ordinary seen hname hordinary hlong)
          (ne_dashes_of_long seen),
        Prescan.after_cons_of_item (classify_of_plain plain).1 (classify_of_plain plain).2]
      apply ih inherit tree
      simp only [lookup_concat_of_ordinary hordinary]
      exact h

end Arguments
end Scaffolder
