import Scaffolder.Proofs.Arguments.Reading

/-!
# Which command reads what

An accepted argument list is read by the commands that it names, each of which hands what is behind the
name of a subcommand to that subcommand.

* **The way down** (`Descends`, `descends_of_matchFrom`): the commands that read are found one below the
  other by their names, and what each is given is what it has read. A command that needs a subcommand is
  never the last.
* **Names** (`Descends.map_name`): the commands that are named are those that have read, and sharing the
  values of global arguments leaves the names alone (`map_name_share`).

Unlike a reading (`Reads`) this asks nothing of the commands, so it holds also where one takes arguments
whatever they look like.
-/

namespace Scaffolder

open Text (RawText)

/-- Whether a path leads down from a command by the names on it, and ends at a command that needs no
subcommand. -/
inductive Command.Leads : Command → List Command → Prop
  /-- The command itself is the end. -/
  | stay {c : Command} (enough : c.needsSubcommand = false) : Leads c []
  /-- The path goes on from a subcommand. -/
  | down {c sub : Command} {path : List Command} (found : c.subcommand? sub.name = some sub)
      (further : Leads sub path) : Leads c (sub :: path)

/-- No path leads down from a command without subcommands. -/
theorem Command.Leads.eq_nil {c : Command} {path : List Command} (h : c.Leads path)
    (hnone : c.subcommands = []) : path = [] := by
  cases h with
  | stay enough => rfl
  | down found further =>
    unfold Command.subcommand? at found
    rw [hnone] at found
    cases found

namespace Arguments

/-- `Descends inherited c args levels path`: a command reads arguments and hands on to the commands on a
path, one below the other, and these are the levels that come of it. `inherited` holds the global
arguments of the commands around it. -/
inductive Descends : List Argument → Command → List RawText → List MatchedCommand → List Command →
    Prop
  /-- The command reads all arguments. -/
  | last {inherited : List Argument} {c : Command} {args : List RawText} {m : MatchedCommand}
      (named : m.name = c.name) (enough : c.needsSubcommand = false) :
      Descends inherited c args [m] []
  /-- The command reads up to the name of a subcommand, which reads what is behind it. -/
  | handOn {inherited : List Argument} {c sub : Command} {before rest : List RawText} {arg : RawText}
      {m : MatchedCommand} {levels : List MatchedCommand} {path : List Command}
      (named : m.name = c.name) (seen : arg.text? = some sub.name)
      (found : c.subcommand? sub.name = some sub)
      (read : matchFrom ((known inherited c).filter Argument.global) sub {} rest = .ok levels)
      (further : Descends ((known inherited c).filter Argument.global) sub rest levels path) :
      Descends inherited c (before ++ arg :: rest) (m :: levels) (sub :: path)

variable {inherited : List Argument} {c : Command} {p : Progress} {args : List RawText}
  {levels : List MatchedCommand} {path : List Command}

/-- A subcommand that is found has the name. -/
theorem name_of_subcommand? {sub : Command} {name : String} (h : c.subcommand? name = some sub) :
    sub.name = name := by
  unfold Command.subcommand? at h
  simpa using List.find?_some h

/-- A command that has read an argument reads on. -/
theorem Descends.cons (h : Descends inherited c args levels path) (arg : RawText) :
    Descends inherited c (arg :: args) levels path := by
  cases h with
  | last named enough => exact .last named enough
  | handOn named seen found read further =>
    rw [← List.cons_append]
    exact .handOn named seen found read further

/-- What has read is found from the top down. -/
theorem Descends.leads (h : Descends inherited c args levels path) : c.Leads path := by
  induction h with
  | last named enough => exact .stay enough
  | handOn named seen found read further ih => exact .down found ih

/-- What is named is what has read. -/
theorem Descends.map_name (h : Descends inherited c args levels path) :
    levels.map MatchedCommand.name = c.name :: path.map Command.name := by
  induction h with
  | last named enough => simp [named]
  | handOn named seen found read further ih => rw [List.map_cons, List.map_cons, named, ih]

/-- What is matched has the name of its command. -/
theorem name_of_finish {known : List Argument} {sub : Bool} {m : MatchedCommand}
    (h : finish known c sub p = .ok m) : m.name = c.name := by
  obtain ⟨q, _, rfl⟩ := finish_eq_ok h
  rfl

/-- A command does not end where it needs a subcommand. -/
theorem needsSubcommand_of_finish {known : List Argument} {m : MatchedCommand}
    (h : finish known c false p = .ok m) : c.needsSubcommand = false := by
  obtain ⟨q, _, h⟩ := bind_eq_ok.1 h
  cases hneeds : c.needsSubcommand with
  | false => rfl
  | true => simp [hneeds, throw, throwThe, MonadExceptOf.throw, bind, Except.bind] at h

/-- Whatever becomes of an argument that does not name a subcommand, the command reads on. -/
theorem readOn_of_outcome {arg : RawText} {rest : List RawText} {x : Except UsageError FlagOutcome}
    (h : (do
      let outcome ← x
      match outcome with
      | .done p => matchFrom inherited c p rest
      | .notAFlag =>
          match p.trailing, p.awaiting, p.pending with
          | false, true, some (option, _) => matchFrom inherited c (p.collect option arg) rest
          | _, _, _ => do
              let p ← positional (known inherited c) c arg p
              matchFrom inherited c p rest) = .ok levels) :
    ∃ p', matchFrom inherited c p' rest = .ok levels := by
  obtain ⟨outcome, _, h⟩ := bind_eq_ok.1 h
  cases outcome with
  | done q => exact ⟨q, h⟩
  | notAFlag =>
    dsimp only at h
    split at h
    · exact ⟨_, h⟩
    · obtain ⟨q, _, h⟩ := bind_eq_ok.1 h
      exact ⟨q, h⟩

/-- **What the first argument does:** it names a subcommand, which reads the rest, or the command reads
on. -/
theorem descend_or_read_on {arg : RawText} {rest : List RawText}
    (h : matchFrom inherited c p (arg :: rest) = .ok levels) :
    (∃ name sub below m, arg.text? = some name ∧ c.subcommand? name = some sub ∧
        matchFrom ((known inherited c).filter Argument.global) sub {} rest = .ok below ∧
        finish (known inherited c) c true p = .ok m ∧ levels = m :: below) ∨
      ∃ p', matchFrom inherited c p' rest = .ok levels := by
  rw [matchFrom] at h
  dsimp only at h
  split at h
  · cases h
  split at h
  · next sub hsub =>
    split_ifs at hsub
    obtain ⟨name, hname, hsub⟩ := Option.bind_eq_some_iff.1 hsub
    obtain ⟨below, hbelow, h⟩ := bind_eq_ok.1 h
    obtain ⟨m, hfinish, h⟩ := bind_eq_ok.1 h
    exact .inl ⟨name, sub, below, m, hname, hsub, hbelow, hfinish, (Except.ok.inj h).symm⟩
  · right
    split at h
    · exact readOn_of_outcome h
    · split at h
      all_goals exact readOn_of_outcome h

/-- **What is accepted is read from the top down.** -/
theorem descends_of_matchFrom (h : matchFrom inherited c p args = .ok levels) :
    ∃ path, Descends inherited c args levels path := by
  induction args generalizing inherited c p levels with
  | nil =>
    obtain ⟨m, hfinish, h⟩ := bind_eq_ok.1 h
    obtain rfl := Except.ok.inj h
    exact ⟨[], .last (name_of_finish hfinish) (needsSubcommand_of_finish hfinish)⟩
  | cons arg rest ih =>
    rcases descend_or_read_on h with ⟨name, sub, below, m, hname, hsub, hbelow, hfinish, rfl⟩ | ⟨p', h⟩
    · have hsame : sub.name = name := name_of_subcommand? hsub
      obtain ⟨path, further⟩ := ih hbelow
      rw [← hsame] at hname hsub
      rw [← List.nil_append (arg :: rest)]
      exact ⟨sub :: path, .handOn (name_of_finish hfinish) hname hsub hbelow further⟩
    · obtain ⟨path, hpath⟩ := ih h
      exact ⟨path, hpath.cons arg⟩

/-! ## Sharing -/

/-- Sharing a value changes no names. -/
theorem map_name_share (levels : List MatchedCommand) (id : String) :
    (share levels id).map MatchedCommand.name = levels.map MatchedCommand.name := by
  unfold share
  cases innermost? levels id with
  | none => rfl
  | some values =>
    rw [List.map_map]
    rfl

/-- Sharing several values changes no names. -/
theorem map_name_foldl_share (levels : List MatchedCommand) (ids : List String) :
    (ids.foldl share levels).map MatchedCommand.name = levels.map MatchedCommand.name := by
  induction ids generalizing levels with
  | nil => rfl
  | cons id ids ih => rw [List.foldl_cons, ih, map_name_share]

end Arguments

/-- **Accepted arguments are read from the top down,** and then the values of global arguments are
shared. The commands that are named in the end are those that have read. -/
theorem Command.exists_descent_of_matches {c : Command} {args : List RawText}
    {levels : List MatchedCommand} (h : c.matches args = .ok levels) :
    ∃ read path, Arguments.matchFrom [] c {} args = .ok read ∧
      levels = ((Arguments.globals c read.tail).map Argument.id).foldl Arguments.share read ∧
      Arguments.Descends [] c args read path ∧
      levels.map MatchedCommand.name = c.name :: path.map Command.name := by
  obtain ⟨read, hread, h⟩ := bind_eq_ok.1 h
  obtain rfl := Except.ok.inj h
  obtain ⟨path, hpath⟩ := Arguments.descends_of_matchFrom hread
  refine ⟨read, path, hread, rfl, hpath, ?_⟩
  rw [Arguments.map_name_foldl_share, hpath.map_name]

end Scaffolder
