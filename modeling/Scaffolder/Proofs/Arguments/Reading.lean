import Mathlib.Tactic.SplitIfs
import Scaffolder.Arguments.Matching
import Scaffolder.Proofs.Directory

/-!
# Readings of an argument list

What an accepted argument list looks like, where no command takes arguments whatever they look like.

* **Readings** (`Reads`) are a grammar: at a command stand its switches and its options with their
  values, each at most once, and then nothing, two dashes, or the name of a subcommand and a reading
  by that one.
* **What is accepted has a reading** (`reads_of_matchFrom`). The matching stores a value one argument
  after it has seen it (`value_of_awaiting`); a reading has it at once.
* **Sharing** (`Command.exists_matchFrom_of_matches`): the values of a global argument of the outermost
  command are the same at all commands afterwards, those at the innermost command where it was given.
-/

namespace Scaffolder

open Text (Glyph RawText)

/-- Whether something holds of a command and of all commands below it. -/
inductive Command.Throughout (P : Command → Prop) : Command → Prop
  /-- It holds here, and throughout the subcommands. -/
  | intro {c : Command} (here : P c) (below : ∀ sub ∈ c.subcommands, Throughout P sub) :
      Throughout P c

namespace Command.Throughout

variable {P Q : Command → Prop} {c : Command}

/-- What holds throughout holds of the command itself. -/
theorem here (h : c.Throughout P) : P c := by
  cases h with
  | intro here below => exact here

/-- What holds throughout holds throughout each subcommand. -/
theorem of_mem (h : c.Throughout P) {sub : Command} (hsub : sub ∈ c.subcommands) :
    sub.Throughout P := by
  cases h with
  | intro here below => exact below sub hsub

/-- What holds throughout may be weakened. -/
theorem mono (h : c.Throughout P) (weaker : ∀ c, P c → Q c) : c.Throughout Q := by
  induction h with
  | intro here below ih => exact .intro (weaker _ here) ih

end Command.Throughout

namespace Arguments

/-- `Reads inherited c given args levels`: a command that is given some values already reads
arguments, and names these commands with what each is given. `inherited` holds the global arguments of
the commands around it. -/
inductive Reads : List Argument → Command → List (String × List String) → List RawText →
    List MatchedCommand → Prop
  /-- Nothing follows. -/
  | nothing {inherited : List Argument} {c : Command} {given : List (String × List String)} :
      Reads inherited c given [] [⟨c.name, given⟩]
  /-- Two dashes, and nothing follows. -/
  | dashes {inherited : List Argument} {c : Command} {given : List (String × List String)}
      {arg : RawText} (seen : look arg = .dashes) : Reads inherited c given [arg] [⟨c.name, given⟩]
  /-- The name of a subcommand, which reads all that follows. -/
  | command {inherited : List Argument} {c sub : Command} {given : List (String × List String)}
      {arg : RawText} {name : String} {rest : List RawText} {below : List MatchedCommand}
      (seen : arg.text? = some name) (found : c.subcommand? name = some sub)
      (read : Reads ((known inherited c).filter Argument.global) sub [] rest below) :
      Reads inherited c given (arg :: rest) (⟨c.name, given⟩ :: below)
  /-- A switch. -/
  | switch {inherited : List Argument} {c : Command} {given : List (String × List String)}
      {arg name : RawText} {a : Argument} {rest : List RawText} {levels : List MatchedCommand}
      (seen : look arg = .long name none) (found : findLong (known inherited c) name = some a)
      (free : given.lookup a.id = none)
      (read : Reads inherited c (given ++ [(a.id, [])]) rest levels) (alone : a.takesValue = false) :
      Reads inherited c given (arg :: rest) levels
  /-- An option with its value behind an equals sign. -/
  | inline {inherited : List Argument} {c : Command} {given : List (String × List String)}
      {arg name value : RawText} {a : Argument} {text : String} {rest : List RawText}
      {levels : List MatchedCommand}
      (seen : look arg = .long name (some value))
      (found : findLong (known inherited c) name = some a) (free : given.lookup a.id = none)
      (read : Reads inherited c (given ++ [(a.id, [text])]) rest levels)
      (isText : value.text? = some text) :
      Reads inherited c given (arg :: rest) levels
  /-- An option with its value as the next argument, which does not look like a flag. -/
  | separate {inherited : List Argument} {c : Command} {given : List (String × List String)}
      {arg name value : RawText} {a : Argument} {text : String} {rest : List RawText}
      {levels : List MatchedCommand}
      (seen : look arg = .long name none) (found : findLong (known inherited c) name = some a)
      (free : given.lookup a.id = none)
      (read : Reads inherited c (given ++ [(a.id, [text])]) rest levels)
      (isText : value.text? = some text) (plain : look value = .plain) :
      Reads inherited c given (arg :: value :: rest) levels

/-! ## What is collected -/

namespace Progress

variable {p q : Progress} {a : Argument} {values : List RawText}

/-- Values are stored under an id that has none yet, if they are text and an option has at least
one. -/
theorem store_eq_ok_iff :
    p.store a values = .ok q ↔
      (a.takesValue = true → values ≠ []) ∧ p.given.lookup a.id = none ∧
        ∃ texts, values.mapM RawText.text? = some texts ∧
          q = { p with given := p.given ++ [(a.id, texts)] } := by
  unfold store
  split_ifs with hmissing htaken
  · simp only [Bool.and_eq_true, List.isEmpty_iff] at hmissing
    simp [hmissing]
  · rw [Option.isSome_iff_ne_none] at htaken
    simp [htaken]
  · simp only [Bool.and_eq_true, List.isEmpty_iff, not_and] at hmissing
    rw [Bool.not_eq_true, Option.isSome_eq_false_iff, Option.isNone_iff_eq_none] at htaken
    cases htexts : values.mapM RawText.text? with
    | none => simp
    | some texts =>
      simp only [htaken, Option.some.injEq, Except.ok.injEq, ne_eq, true_and, exists_eq_left']
      exact ⟨fun h => ⟨hmissing, h.symm⟩, fun h => h.2.symm⟩

/-- Where nothing is being collected there is nothing to settle. -/
theorem settle_of_no_pending (h : p.pending = none) : p.settle = .ok { p with awaiting := false } := by
  unfold settle
  rw [h]

/-- An argument that waits for values is stored with those that it has. -/
theorem settle_of_pending (h : p.pending = some (a, values)) :
    p.settle = store a values { p with pending := none, awaiting := false } := by
  unfold settle
  rw [h]

/-- What is settled collects nothing. -/
theorem of_settle (h : p.settle = .ok q) :
    q.pending = none ∧ q.awaiting = false ∧ q.trailing = p.trailing := by
  rcases hp : p.pending with _ | ⟨a, values⟩
  · rw [settle_of_no_pending hp] at h
    obtain rfl := Except.ok.inj h
    exact ⟨hp, rfl, rfl⟩
  · rw [settle_of_pending hp] at h
    obtain ⟨_, _, texts, _, rfl⟩ := store_eq_ok_iff.1 h
    exact ⟨rfl, rfl, rfl⟩

/-- Once an argument is stored, nothing is being collected, and there is nothing more to settle. -/
theorem of_store (h : q.store a values = .ok p) (nothing : q.pending = none)
    (ready : q.awaiting = false) :
    p.settle = .ok p ∧ p.awaiting = false ∧ p.trailing = q.trailing ∧ q.given.lookup a.id = none ∧
      ∃ texts, values.mapM RawText.text? = some texts ∧ p.given = q.given ++ [(a.id, texts)] := by
  obtain ⟨_, hfree, texts, htexts, hp⟩ := store_eq_ok_iff.1 h
  have hnothing : p.pending = none := by
    rw [hp]
    exact nothing
  have hready : p.awaiting = false := by
    rw [hp]
    exact ready
  refine ⟨?_, hready, by rw [hp], hfree, texts, htexts, by rw [hp]⟩
  rw [settle_of_no_pending hnothing, ← hready]

/-- Settling does not depend on whether flags are looked for. -/
theorem exists_settle_of_trailing (h : settle { p with trailing := true } = .ok q) :
    ∃ r, p.settle = .ok r ∧ q.given = r.given := by
  rcases hp : p.pending with _ | ⟨a, values⟩
  · rw [settle_of_no_pending (p := { p with trailing := true }) hp] at h
    obtain rfl := Except.ok.inj h
    exact ⟨_, settle_of_no_pending hp, rfl⟩
  · rw [settle_of_pending (p := { p with trailing := true }) hp] at h
    obtain ⟨hvalues, hfree, texts, htexts, rfl⟩ := store_eq_ok_iff.1 h
    refine ⟨{ p with given := p.given ++ [(a.id, texts)], pending := none, awaiting := false }, ?_, rfl⟩
    rw [settle_of_pending hp]
    exact store_eq_ok_iff.2 ⟨hvalues, hfree, texts, htexts, rfl⟩

/-- An option cannot be settled before its value is seen. -/
theorem settle_of_awaiting (takes : a.takesValue = true) :
    settle { p with pending := some (a, []), awaiting := true } ≠ .ok q := by
  intro h
  rw [settle_of_pending rfl] at h
  exact (store_eq_ok_iff.1 h).1 takes rfl

end Progress

/-- **How a command ends:** its last argument is settled, and what is given is kept under its name. -/
theorem finish_eq_ok {args : List Argument} {c : Command} {sub : Bool} {p : Progress}
    {m : MatchedCommand} (h : finish args c sub p = .ok m) :
    ∃ q, p.settle = .ok q ∧ m = ⟨c.name, q.given⟩ := by
  obtain ⟨q, hsettle, h⟩ := bind_eq_ok.1 h
  refine ⟨q, hsettle, ?_⟩
  dsimp only at h
  split_ifs at h
  all_goals first
    | exact (Except.ok.inj h).symm
    | cases h

/-! ## What is accepted -/

section

variable {inherited : List Argument} {c : Command} {p q : Progress} {args : List RawText}
  {levels : List MatchedCommand}

/-- A long flag that is dealt with is one that the command knows. -/
theorem longFlag_eq_ok {known : List Argument} {name : RawText} {value : Option RawText}
    {outcome : FlagOutcome} (norest : restOf known = none)
    (h : longFlag known c name value p = .ok outcome) :
    ∃ a q, findLong known name = some a ∧ p.settle = .ok q ∧
      ((a.takesValue = false ∧ value = none ∧ ∃ r, q.store a [] = .ok r ∧ outcome = .done r) ∨
        (∃ v, value = some v ∧ ∃ r, q.store a [v] = .ok r ∧ outcome = .done r) ∨
        (a.takesValue = true ∧ value = none ∧
          outcome = .done { q with pending := some (a, []), awaiting := true })) := by
  unfold longFlag at h
  cases hfind : findLong known name with
  | none =>
    rw [hfind, norest] at h
    simp only [Option.isSome_none, Bool.and_false, Bool.false_eq_true, ↓reduceIte] at h
    split_ifs at h
    obtain ⟨_, _, h⟩ := bind_eq_ok.1 h
    cases h
  | some a =>
    rw [hfind] at h
    dsimp only at h
    split at h
    · next v htakes =>
      obtain ⟨q, hsettle, h⟩ := bind_eq_ok.1 h
      obtain ⟨r, hstore, h⟩ := bind_eq_ok.1 h
      obtain rfl := Except.ok.inj h
      exact ⟨a, q, rfl, hsettle, .inr (.inl ⟨v, rfl, r, hstore, rfl⟩)⟩
    · next htakes =>
      obtain ⟨q, hsettle, h⟩ := bind_eq_ok.1 h
      obtain rfl := Except.ok.inj h
      exact ⟨a, q, rfl, hsettle, .inr (.inr ⟨htakes, rfl, rfl⟩)⟩
    · cases h
    · next htakes =>
      obtain ⟨q, hsettle, h⟩ := bind_eq_ok.1 h
      obtain ⟨r, hstore, h⟩ := bind_eq_ok.1 h
      obtain rfl := Except.ok.inj h
      exact ⟨a, q, rfl, hsettle, .inl ⟨htakes, rfl, r, hstore, rfl⟩⟩

/-- No short flag is dealt with: the only one that is known asks for help. -/
theorem shortFlag_ne_ok {known : List Argument} {first : Glyph} {others : RawText}
    {outcome : FlagOutcome} (norest : restOf known = none) :
    shortFlag known c first others p ≠ .ok outcome := by
  intro h
  unfold shortFlag at h
  rw [norest] at h
  simp only [Option.isSome_none, Bool.false_and, Bool.false_eq_true, ↓reduceIte] at h
  split_ifs at h
  obtain ⟨_, _, h⟩ := bind_eq_ok.1 h
  cases h

/-- A value that no argument takes is not accepted. -/
theorem positional_ne_ok {known : List Argument} {arg : RawText}
    (norest : restOf known = none) : positional known c arg p ≠ .ok q := by
  unfold positional
  rw [norest]
  intro h
  cases h

/-- After two dashes nothing may follow. -/
theorem nil_of_trailing (norest : restOf (known inherited c) = none) (trailing : p.trailing = true)
    (h : matchFrom inherited c p args = .ok levels) :
    args = [] ∧ ∃ q, p.settle = .ok q ∧ levels = [⟨c.name, q.given⟩] := by
  cases args with
  | nil =>
    obtain ⟨m, hfinish, h⟩ := bind_eq_ok.1 h
    obtain ⟨q, hsettle, rfl⟩ := finish_eq_ok hfinish
    exact ⟨rfl, q, hsettle, (Except.ok.inj h).symm⟩
  | cons arg rest =>
    rw [matchFrom] at h
    simp only [trailing, Bool.true_or, Bool.not_true, Bool.false_and, Bool.false_eq_true,
      ↓reduceIte] at h
    obtain ⟨outcome, hpure, h⟩ := bind_eq_ok.1 h
    obtain rfl := Except.ok.inj hpure
    obtain ⟨q, hpositional, _⟩ := bind_eq_ok.1 h
    exact absurd hpositional (positional_ne_ok norest)

/-- **What the next argument can be:** the name of a subcommand, two dashes, a long flag, or a value
that is waited for. -/
theorem matchFrom_cons_cases {arg : RawText} {rest : List RawText}
    (norest : restOf (known inherited c) = none) (flags : p.trailing = false)
    (h : matchFrom inherited c p (arg :: rest) = .ok levels) :
    (p.awaiting = false ∧ ∃ name sub below m, arg.text? = some name ∧
        c.subcommand? name = some sub ∧
        matchFrom ((known inherited c).filter Argument.global) sub {} rest = .ok below ∧
        finish (known inherited c) c true p = .ok m ∧ levels = m :: below) ∨
      (look arg = .dashes ∧ matchFrom inherited c { p with trailing := true } rest = .ok levels) ∨
      (∃ name value r, look arg = .long name value ∧
        longFlag (known inherited c) c name value p = .ok (.done r) ∧
        matchFrom inherited c r rest = .ok levels) ∨
      ∃ a values, look arg = .plain ∧ p.awaiting = true ∧ p.pending = some (a, values) ∧
        matchFrom inherited c (p.collect a arg) rest = .ok levels := by
  rw [matchFrom] at h
  dsimp only at h
  rw [flags, Bool.false_or] at h
  split at h
  · cases h
  split at h
  · next sub hsub =>
    split_ifs at hsub with hawaiting
    obtain ⟨name, hname, hsub⟩ := Option.bind_eq_some_iff.1 hsub
    obtain ⟨below, hbelow, h⟩ := bind_eq_ok.1 h
    obtain ⟨m, hfinish, h⟩ := bind_eq_ok.1 h
    exact .inl ⟨Bool.eq_false_iff.2 hawaiting, name, sub, below, m, hname, hsub, hbelow, hfinish,
      (Except.ok.inj h).symm⟩
  · refine .inr ?_
    rw [if_neg Bool.false_ne_true] at h
    split at h
    · next hlook => exact .inl ⟨hlook, h⟩
    · next name value hlook =>
      obtain ⟨outcome, hflag, h⟩ := bind_eq_ok.1 h
      have hdone : ∃ r, outcome = .done r := by
        obtain ⟨a, q, _, _, ⟨_, _, r, _, hr⟩ | ⟨_, _, r, _, hr⟩ | ⟨_, _, hr⟩⟩ :=
          longFlag_eq_ok norest hflag
        all_goals exact ⟨_, hr⟩
      obtain ⟨r, rfl⟩ := hdone
      exact .inr (.inl ⟨name, value, r, hlook, hflag, h⟩)
    · obtain ⟨outcome, hflag, _⟩ := bind_eq_ok.1 h
      exact absurd hflag (shortFlag_ne_ok norest)
    · next hlook =>
      refine .inr (.inr ?_)
      obtain ⟨outcome, hpure, h⟩ := bind_eq_ok.1 h
      obtain rfl := Except.ok.inj hpure
      dsimp only at h
      split at h
      · next a values _ hawaiting hpending => exact ⟨a, values, hlook, hawaiting, hpending, h⟩
      · obtain ⟨q, hpositional, _⟩ := bind_eq_ok.1 h
        exact absurd hpositional (positional_ne_ok norest)

/-- An option takes the next argument as its value, unless that looks like a flag. -/
theorem value_of_awaiting {a : Argument} (norest : restOf (known inherited c) = none)
    (flags : p.trailing = false) (takes : a.takesValue = true)
    (h : matchFrom inherited c { p with pending := some (a, []), awaiting := true } args =
      .ok levels) :
    ∃ value rest r, args = value :: rest ∧ look value = .plain ∧
      r = { p with pending := some (a, [value]), awaiting := false } ∧
      matchFrom inherited c r rest = .ok levels := by
  cases args with
  | nil =>
    obtain ⟨m, hfinish, _⟩ := bind_eq_ok.1 h
    obtain ⟨q, hsettle, _⟩ := finish_eq_ok hfinish
    exact absurd hsettle (Progress.settle_of_awaiting takes)
  | cons value rest =>
    rcases matchFrom_cons_cases (p := { p with pending := some (a, []), awaiting := true }) norest
      flags h with ⟨hawaiting, _⟩ | ⟨_, h⟩ | ⟨name, v, r, _, hflag, _⟩ |
        ⟨b, values, hplain, _, hpending, h⟩
    · cases hawaiting
    · obtain ⟨_, q, hsettle, _⟩ := nil_of_trailing norest rfl h
      rw [Progress.settle_of_pending rfl] at hsettle
      exact absurd rfl ((Progress.store_eq_ok_iff.1 hsettle).1 takes)
    · obtain ⟨_, q, _, hsettle, _⟩ := longFlag_eq_ok norest hflag
      exact absurd hsettle (Progress.settle_of_awaiting takes)
    · obtain ⟨rfl, rfl⟩ := Prod.mk.inj (Option.some.inj hpending)
      exact ⟨value, rest, _, rfl, hplain, rfl, h⟩

/-- No argument takes the rest, if none is of that kind. -/
theorem restOf_eq_none {args : List Argument} (h : ∀ a ∈ args, a.kind ≠ .rest) :
    restOf args = none := by
  unfold restOf
  rw [List.find?_eq_none]
  intro a ha hrest
  exact h a ha (of_decide_eq_true hrest)

/-- One value is read as one text. -/
theorem exists_of_mapM_singleton {value : RawText} {texts : List String}
    (h : [value].mapM RawText.text? = some texts) : ∃ t, value.text? = some t ∧ texts = [t] := by
  cases ht : value.text? with
  | none => simp [ht] at h
  | some t => exact ⟨t, rfl, by simpa [ht, eq_comm] using h⟩

/-- **What is accepted has a reading,** from the values that are stored once what is being collected
is settled. The induction is on the number of arguments, since an option may take two of them. -/
theorem reads_of_matchFrom (inherit : ∀ a ∈ inherited, a.kind ≠ .rest)
    (tree : c.Throughout fun c => ∀ a ∈ c.arguments, a.kind ≠ .rest)
    (ready : p.awaiting = false) (flags : p.trailing = false)
    (h : matchFrom inherited c p args = .ok levels) :
    ∃ q, p.settle = .ok q ∧ Reads inherited c q.given args levels := by
  induction hn : args.length using Nat.strongRecOn generalizing inherited c p args levels with
  | _ n ih =>
  subst hn
  have hknown : ∀ a ∈ known inherited c, a.kind ≠ .rest := by
    intro a ha
    rcases List.mem_append.1 ha with ha | ha
    · exact tree.here a ha
    · exact inherit a ha
  have norest := restOf_eq_none hknown
  cases args with
  | nil =>
    obtain ⟨m, hfinish, h⟩ := bind_eq_ok.1 h
    obtain ⟨q, hsettle, rfl⟩ := finish_eq_ok hfinish
    obtain rfl := Except.ok.inj h
    exact ⟨q, hsettle, .nothing⟩
  | cons arg rest =>
    rcases matchFrom_cons_cases norest flags h with
      ⟨_, name, sub, below, m, hname, hsub, hbelow, hfinish, rfl⟩ | ⟨hdashes, h⟩ |
        ⟨name, value, r, hlong, hflag, h⟩ | ⟨_, _, _, hawaiting, _⟩
    · obtain ⟨q, hsettle, rfl⟩ := finish_eq_ok hfinish
      obtain ⟨q', hsettle', hread⟩ := ih rest.length (by simp)
        (fun a ha => hknown a (List.mem_filter.1 ha).1)
        (tree.of_mem (List.mem_of_find?_eq_some hsub)) rfl rfl hbelow rfl
      obtain rfl := Except.ok.inj hsettle'
      exact ⟨q, hsettle, .command hname hsub hread⟩
    · obtain ⟨rfl, q, hsettle, rfl⟩ := nil_of_trailing norest rfl h
      obtain ⟨q', hsettle', hgiven⟩ := Progress.exists_settle_of_trailing hsettle
      rw [hgiven]
      exact ⟨q', hsettle', .dashes hdashes⟩
    · obtain ⟨a, q, hfound, hsettle, hcases⟩ := longFlag_eq_ok norest hflag
      obtain ⟨hpending, hq, hqflags⟩ := Progress.of_settle hsettle
      rw [flags] at hqflags
      refine ⟨q, hsettle, ?_⟩
      have hstored : ∀ {values : List RawText} {r' : Progress}, q.store a values = .ok r' →
          matchFrom inherited c r' rest = .ok levels →
          q.given.lookup a.id = none ∧ ∃ texts, values.mapM RawText.text? = some texts ∧
            Reads inherited c (q.given ++ [(a.id, texts)]) rest levels := by
        intro values r' hstore h
        obtain ⟨hself, hready, htrailing, hfree, texts, htexts, hgiven⟩ :=
          Progress.of_store hstore hpending hq
        obtain ⟨q', hsettle', hread⟩ := ih rest.length (by simp) inherit tree hready
          (htrailing.trans hqflags) h rfl
        rw [hself] at hsettle'
        obtain rfl := Except.ok.inj hsettle'
        rw [hgiven] at hread
        exact ⟨hfree, texts, htexts, hread⟩
      rcases hcases with ⟨halone, rfl, r', hstore, hr⟩ | ⟨v, rfl, r', hstore, hr⟩ | ⟨htakes, rfl, hr⟩
      · obtain rfl := FlagOutcome.done.inj hr
        obtain ⟨hfree, texts, htexts, hread⟩ := hstored hstore h
        obtain rfl := Option.some.inj htexts
        exact .switch hlong hfound hfree hread halone
      · obtain rfl := FlagOutcome.done.inj hr
        obtain ⟨hfree, texts, htexts, hread⟩ := hstored hstore h
        obtain ⟨t, ht, rfl⟩ := exists_of_mapM_singleton htexts
        exact .inline hlong hfound hfree hread ht
      · -- The option is stored only when what follows its value is settled.
        obtain rfl := FlagOutcome.done.inj hr
        obtain ⟨v, rest', r', rfl, hplain, hcollected, h⟩ := value_of_awaiting norest hqflags htakes h
        have hready : r'.awaiting = false ∧ r'.trailing = false := by
          rw [hcollected]
          exact ⟨rfl, hqflags⟩
        have hshorter : rest'.length < (arg :: v :: rest').length := by
          simp only [List.length_cons]
          omega
        obtain ⟨q', hsettle', hread⟩ := ih rest'.length hshorter inherit tree hready.1 hready.2 h rfl
        rw [hcollected, Progress.settle_of_pending rfl] at hsettle'
        obtain ⟨_, _, _, hfree, texts, htexts, hgiven⟩ := Progress.of_store hsettle' rfl rfl
        obtain ⟨t, ht, rfl⟩ := exists_of_mapM_singleton htexts
        rw [hgiven] at hread
        exact .separate hlong hfound hfree hread ht hplain
    · rw [ready] at hawaiting
      cases hawaiting

end

/-! ## Sharing -/

/-- What is given to an argument is found there. -/
theorem lookup_give_self (m : MatchedCommand) (id : String) (values : List String) :
    (m.give id values).given.lookup id = some values := by
  simp [MatchedCommand.give]

/-- What is given to another argument is found as it was. -/
theorem lookup_give_of_ne {m : MatchedCommand} {id other : String} {values : List String}
    (hne : other ≠ id) : (m.give id values).given.lookup other = m.given.lookup other := by
  have hfilter : ∀ given : List (String × List String),
      (given.filter fun g => g.1 ≠ id).lookup other = given.lookup other := by
    intro given
    induction given with
    | nil => rfl
    | cons g given ih =>
      by_cases hg : g.1 = id
      · have hother : (other == g.1) = false := by
          rw [hg]
          exact beq_false_of_ne hne
        rw [List.filter_cons_of_neg (by simpa using hg), ih, List.lookup_cons, hother]
      · rw [List.filter_cons_of_pos (by simpa using hg), List.lookup_cons, List.lookup_cons, ih]
  unfold MatchedCommand.give
  rw [List.lookup_cons, beq_false_of_ne hne]
  exact hfilter m.given

/-- Sharing does not change what holds at the innermost command. -/
theorem innermost?_share (levels : List MatchedCommand) (id other : String) :
    innermost? (share levels id) other = innermost? levels other := by
  unfold share
  cases hvalues : innermost? levels id with
  | none => rfl
  | some values =>
    dsimp only
    unfold innermost?
    rw [← List.map_reverse, List.findSome?_map]
    by_cases hid : other = id
    · subst hid
      have hsame : ((fun m => m.given.lookup other) ∘ fun m => MatchedCommand.give m other values) =
          fun _ => some values := funext fun m => lookup_give_self m other values
      rw [hsame]
      unfold innermost? at hvalues
      rw [hvalues]
      cases hlevels : levels.reverse with
      | nil =>
        rw [hlevels] at hvalues
        cases hvalues
      | cons m ms => rfl
    · congr 1
      funext m
      exact lookup_give_of_ne hid

/-- Whether all commands are given the values of the innermost. -/
def Shared (levels : List MatchedCommand) (id : String) : Prop :=
  ∀ m ∈ levels, m.given.lookup id = innermost? levels id

/-- A value that is shared is the same on all levels. -/
theorem shared_share (levels : List MatchedCommand) (id : String) : Shared (share levels id) id := by
  intro m hm
  rw [innermost?_share]
  unfold share at hm
  cases hvalues : innermost? levels id with
  | none =>
    rw [hvalues] at hm
    exact List.findSome?_eq_none_iff.1 hvalues m (List.mem_reverse.2 hm)
  | some values =>
    rw [hvalues] at hm
    obtain ⟨m', _, rfl⟩ := List.mem_map.1 hm
    exact lookup_give_self m' id values

/-- What is shared stays so when something else is shared, or the same again. -/
theorem Shared.share {levels : List MatchedCommand} {id : String} (h : Shared levels id)
    (other : String) : Shared (share levels other) id := by
  by_cases hid : id = other
  · subst hid
    exact shared_share levels id
  · intro m hm
    rw [innermost?_share]
    unfold Arguments.share at hm
    cases hvalues : innermost? levels other with
    | none =>
      rw [hvalues] at hm
      exact h m hm
    | some values =>
      rw [hvalues] at hm
      obtain ⟨m', hm', rfl⟩ := List.mem_map.1 hm
      rw [lookup_give_of_ne hid]
      exact h m' hm'

/-- Values that are shared in turn are the same on all levels, and stay what was found innermost. -/
theorem shared_foldl {levels : List MatchedCommand} {ids : List String} {id : String}
    (h : id ∈ ids ∨ Shared levels id) :
    Shared (ids.foldl Arguments.share levels) id ∧
      innermost? (ids.foldl Arguments.share levels) id = innermost? levels id := by
  induction ids generalizing levels with
  | nil =>
    rcases h with h | h
    · cases h
    · exact ⟨h, rfl⟩
  | cons first ids ih =>
    rw [List.foldl_cons, ← innermost?_share levels first id]
    apply ih
    rcases h with h | h
    · rcases List.mem_cons.1 h with rfl | h
      · exact .inr (shared_share levels id)
      · exact .inl h
    · exact .inr (h.share first)

end Arguments

/-- **Accepted arguments.** All commands are given the same values of a global argument of the
outermost: those at the innermost command where it stood. -/
theorem Command.exists_matchFrom_of_matches {c : Command} {args : List RawText}
    {levels : List MatchedCommand} (h : c.matches args = .ok levels) :
    ∃ read, Arguments.matchFrom [] c {} args = .ok read ∧
      ∀ a ∈ c.arguments, a.global = true → ∀ m ∈ levels,
        m.given.lookup a.id = Arguments.innermost? read a.id := by
  obtain ⟨read, hread, h⟩ := bind_eq_ok.1 h
  obtain rfl := Except.ok.inj h
  refine ⟨read, hread, fun a ha hglobal m hm => ?_⟩
  have hmem : a.id ∈ (Arguments.globals c read.tail).map Argument.id := by
    apply List.mem_map_of_mem
    have hown : a ∈ c.arguments.filter Argument.global := List.mem_filter.2 ⟨ha, hglobal⟩
    cases read.tail with
    | nil => exact hown
    | cons m ms => exact List.mem_append_left _ hown
  obtain ⟨hshared, hsame⟩ := Arguments.shared_foldl (.inl hmem)
  rw [hshared m hm, hsame]

end Scaffolder
