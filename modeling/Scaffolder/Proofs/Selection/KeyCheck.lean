import Scaffolder.Proofs.PluginKey.Spelling
import Scaffolder.Proofs.Selection

/-!
# The key check of the gate and the reader of keys

The gate checks the key of the command line part by part, without making a plugin key of it, and has
errors of its own. The reader of plugin keys makes one. The two accept the same keys, and find the same
fault in every other.

* **The faults** (`KeyError.atGate`): how the gate puts a fault of a key. A missing name breaks the rules for
  names there, where the reader tells it apart.
* **Agreement** (`gateKey_eq_ofParts`): the gate says of a key what its parts make, put in its own way.

`gate_reads_key` says this of requests whose version has candidates.
-/

namespace Scaffolder

/-- How the gate puts what is wrong with a key. -/
def KeyError.atGate : KeyError → GateError
  | .emptyKey => .invalidName "" (.invalidName "" .empty)
  | .invalidName name fault => .invalidName name (.invalidName name fault)
  | .invalidVersion text => .invalidPluginVersion text (.invalidVersion text)

namespace Request

/-! ## The check of a key -/

/-- **The gate says of a key what its parts make.** -/
theorem gateKey_eq_ofParts (key : String) :
    gateKey key =
      ((PluginKey.ofParts (splitKey key).1 (splitKey key).2).map fun _ => ()).mapError
        KeyError.atGate := by
  rcases hsplit : splitKey key with ⟨name, version⟩
  unfold gateKey PluginKey.ofParts PluginName.validate PluginVersion.parse
  rw [hsplit]
  simp only [String.isEmpty_iff]
  by_cases hname : name = ""
  · have hfault : PluginName.fault? "" = some .empty := rfl
    simp [hname, hfault, Except.map, Except.mapError, KeyError.atGate]
  · rcases PluginName.fault? name with _ | fault
    · by_cases hversion : version = ""
      · simp [hname, hversion, Except.map, Except.mapError]
      · rcases PluginVersion.parse? version with _ | v
        · simp [hname, hversion, Except.map, Except.mapError, KeyError.atGate]
        · simp [hname, hversion, Except.map, Except.mapError]
    · simp [hname, Except.map, Except.mapError, KeyError.atGate]

/-- The gate says of a key without blanks around it what is read there. -/
theorem gateKey_trim (t : String) :
    gateKey (Text.trim t) = ((PluginKey.parse t).map fun _ => ()).mapError KeyError.atGate := by
  rw [gateKey_eq_ofParts, PluginKey.parse_eq_ofParts]

end Request

/-- **The gate lets a key through that spells a plugin key,** and no other. -/
theorem PluginKey.gateKey_eq_ok_iff {key : String} :
    Request.gateKey key = .ok () ↔ ∃ k, Spells key k := by
  simp only [← ofParts_eq_ok_iff, Request.gateKey_eq_ofParts]
  rcases ofParts (splitKey key).1 (splitKey key).2 with e | k
  · simp [Except.map, Except.mapError]
  · simp [Except.map, Except.mapError]

namespace Request

/-! ## Main result -/

variable {q : Request} {r : Registry} {t : String}

/-- Where a version has candidates, the gate checks nothing but the key of the command line, if there is
one. -/
theorem gate_eq_gateKey (version : q.version.fault? = none)
    (candidates : r.pluginsFor q.version ≠ []) (present : q.hasKey = true) :
    q.gate r = gateKey q.key := by
  unfold gate requiresDefault
  simp [version, candidates, present]

/-- **The gate and the reader of keys agree.** Let the version of a request have candidates, and let there be
a key on the command line.

1. The gate lets the request through exactly if the key is read as a plugin key.
2. It finds the name invalid exactly if the reader finds no name, or finds the same fault in the same name.
3. It finds the version part invalid exactly if the reader does, and names the same text.
4. It finds nothing else wrong. -/
theorem gate_reads_key (given : q.key = Text.trim t) (present : q.key ≠ "")
    (version : q.version.fault? = none) (candidates : r.pluginsFor q.version ≠ []) :
    (q.gate r = .ok () ↔ ∃ k, PluginKey.parse t = .ok k) ∧
    (∀ name cause, q.gate r = .error (.invalidName name cause) ↔
      (PluginKey.parse t = .error .emptyKey ∧ name = "" ∧ cause = .invalidName "" .empty) ∨
        ∃ fault, PluginKey.parse t = .error (.invalidName name fault) ∧
          cause = .invalidName name fault) ∧
    (∀ text cause, q.gate r = .error (.invalidPluginVersion text cause) ↔
      PluginKey.parse t = .error (.invalidVersion text) ∧ cause = .invalidVersion text) ∧
    (∀ e, q.gate r = .error e →
      (∃ name cause, e = .invalidName name cause) ∨
        ∃ text cause, e = .invalidPluginVersion text cause) := by
  have hgate : q.gate r = ((PluginKey.parse t).map fun _ => ()).mapError KeyError.atGate := by
    rw [gate_eq_gateKey version candidates (hasKey_iff.2 present), given, gateKey_trim]
  rw [hgate]
  -- the four ways in which reading can end
  rcases PluginKey.parse t with (_ | ⟨name, fault⟩ | text) | k
  · simp +contextual [Except.map, Except.mapError, KeyError.atGate, eq_comm]
  · simp +contextual [Except.map, Except.mapError, KeyError.atGate, eq_comm]
  · simp +contextual [Except.map, Except.mapError, KeyError.atGate, eq_comm]
  · simp [Except.map, Except.mapError]

/-- Two slashes make a version part that is none, and a slash in front leaves no name. -/
theorem gate_reads_key_slashes :
    let r := Registry.afterAll {} twinBatches
    (unconfigured ⟨"2"⟩ "go.scaffold.dev/v2/v3 ").gate r =
        .error (.invalidPluginVersion "v2/v3" (.invalidVersion "v2/v3")) ∧
      (unconfigured ⟨"2"⟩ " /v2").gate r = .error (.invalidName "" (.invalidName "" .empty)) := by
  intro r
  have candidates : r.pluginsFor ⟨"2"⟩ ≠ [] := List.cons_ne_nil _ _
  constructor
  · obtain ⟨-, -, versions, -⟩ := gate_reads_key
      (q := unconfigured ⟨"2"⟩ "go.scaffold.dev/v2/v3 ") rfl (by decide) (by decide) candidates
    exact (versions "v2/v3" _).2 ⟨by decide, rfl⟩
  · obtain ⟨-, names, -, -⟩ := gate_reads_key
      (q := unconfigured ⟨"2"⟩ " /v2") rfl (by decide) (by decide) candidates
    exact (names "" _).2 (.inl ⟨by decide, rfl, rfl⟩)

end Request

end Scaffolder
