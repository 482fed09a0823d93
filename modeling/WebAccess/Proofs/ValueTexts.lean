import WebAccess.Codec.Access
import WebAccess.Proofs.Answers
import WebAccess.Proofs.JsonText

/-!
# Values are read as they were written

Terms, triples, graphs, modes, sessions, outcomes and rules are read back from the JSON text that is
made of them. Text and tree are one question, answered in `Document.Json.read_write`; what is left
is that a value is decoded from the tree that is made of it (`Document.Carries`), with one lemma for
each way of building values: texts, what may be absent, lists, and records, whose fields are given
one after the other (`Document.Record.readEntries_given`).

A set is written as the list of its members, and is the set of the members of that list.
-/

set_option autoImplicit false

namespace WebAccess

namespace Document

variable {α β δ : Type} {height : Nat} {t : Tree}

/-- The tree can be written, nests at most `height` deep, and the value is decoded from it. -/
structure Carries (height : Nat) (t : Tree) (decode : Tree → Decoded α) (a : α) : Prop where
  plain : t.Plain height
  decode_eq : decode t = .ok a

/-- A tree that is plain to some height is so to any greater height. -/
theorem Tree.Plain.mono {height' : Nat} (h : t.Plain height) (hle : height ≤ height') :
    t.Plain height' := by
  induction h generalizing height' with
  | null => exact .null
  | text s => exact .text s
  | list h ih =>
    obtain ⟨n, rfl⟩ := Nat.exists_eq_add_one_of_ne_zero (show height' ≠ 0 by omega)
    exact .list fun u hu => ih u hu (by omega)
  | record h ih =>
    obtain ⟨n, rfl⟩ := Nat.exists_eq_add_one_of_ne_zero (show height' ≠ 0 by omega)
    exact .record fun e he => ih e he (by omega)

/-- A text carries itself. -/
theorem carries_text (s : String) : Carries 0 (.text s) asText s := ⟨.text s, rfl⟩

namespace Carries

variable {decode : Tree → Decoded α} {a : α} {toTree : α → Tree}

/-- What a tree carries may be mapped. -/
theorem map (h : Carries height t decode a) (f : α → β) :
    Carries height t (fun u => (decode u).map f) (f a) := by
  refine ⟨h.plain, ?_⟩
  rw [h.decode_eq]
  rfl

/-- A tree that is not empty carries an optional value where it carries the value. -/
theorem given (h : Carries height t decode a) (hnull : t ≠ .null) :
    Carries height t (asOption decode) (some a) := by
  refine ⟨h.plain, ?_⟩
  rw [asOption, h.decode_eq]
  · rfl
  · exact hnull

/-- The empty tree carries an optional value that is missing. -/
theorem absent : Carries height .null (asOption decode) none := ⟨.null, rfl⟩

/-- A list is decoded from the trees of its members if each member is from its own. -/
theorem mapM {l : List α} (h : ∀ a ∈ l, decode (toTree a) = .ok a) :
    (l.map toTree).mapM decode = .ok l := by
  induction l with
  | nil => rfl
  | cons a l ih =>
    obtain ⟨ha, hl⟩ := List.forall_mem_cons.1 h
    rw [List.map_cons, List.mapM_cons, ha, ih hl]
    rfl

/-- A sequence of trees carries the list of what they carry. -/
theorem list {l : List α} (h : ∀ a, Carries height (toTree a) decode a) :
    Carries (height + 1) (.list (l.map toTree)) (asList decode) l := by
  refine ⟨.list ?_, ?_⟩
  · intro u hu
    obtain ⟨a, -, rfl⟩ := List.mem_map.1 hu
    exact (h a).plain
  · rw [Tree.list, asList, mapM fun a _ => (h a).decode_eq]
    rfl

/-- A value is read from the text that is made of it. -/
theorem whole_read_write (h : Carries height t decode a) (hheight : height ≤ Json.deepest) :
    whole decode (Json.read (Json.write t)) = .ok a := by
  rw [Json.read_write h.plain hheight, whole, h.decode_eq]
  rfl

end Carries

namespace Record

/-- A map is decoded by reading its entries into a draft and completing it. -/
theorem decode_record {r : Record δ α} (entries : List (String × Tree)) :
    r.decode .jsonText (.record entries) = r.readEntries entries r.start >>= r.complete := rfl

variable {r : Record δ α} {name : String} {optional : Bool} {get : δ → Option β}
variable {set : δ → β → δ} {decode : Tree → Decoded β} {rest : List (String × Tree)} {d : δ}

/-- An entry for a field that was not given yet is read into the draft. -/
theorem readEntries_given {b : β}
    (hfield : (r.fields.find? fun f => f.name = name) =
      some (.of name optional get set decode))
    (hnew : get d = none) (h : decode t = .ok b) :
    r.readEntries ((name, t) :: rest) d = r.readEntries rest (set d b) := by
  have hgiven : (Field.of name optional get set decode).isGiven d = false := by
    simp [Field.of, hnew]
  have hread : (Field.of name optional get set decode).read t d = .ok (set d b) := by
    simp [Field.of, h, Except.map]
  rw [readEntries, hfield]
  simp only [hgiven, hread, Bool.false_eq_true, if_false]
  rfl

end Record

end Document

open Document

namespace Rdf

/-- The tree of a term carries the term. -/
theorem Term.carries (t : Term) : Carries 1 t.toTree (Term.decode .jsonText) t := by
  refine ⟨?_, ?_⟩
  · cases t <;> exact .record (by simp [Tree.Plain.text])
  · cases t <;> rfl

/-- The tree of a term is not empty. -/
theorem Term.toTree_ne_null (t : Term) : t.toTree ≠ .null := by
  cases t <;> nofun

/-- The tree of a triple carries the triple. -/
theorem Triple.carries (t : Triple) : Carries 2 t.toTree (Triple.decode .jsonText) t := by
  have hsubject := Term.carries t.subject
  have hobject := Term.carries t.object
  refine ⟨.record ?_, ?_⟩
  · simp [hsubject.plain, hobject.plain, Tree.Plain.text]
  · rw [Triple.toTree, Triple.decode, Record.decode_record,
      Record.readEntries_given rfl rfl hsubject.decode_eq,
      Record.readEntries_given rfl rfl (carries_text t.predicate).decode_eq,
      Record.readEntries_given rfl rfl hobject.decode_eq]
    rfl

/-- The tree of a graph carries the graph. -/
theorem Graph.carries (g : Graph) : Carries 4 g.toTree (Graph.decode .jsonText) g := by
  have htriples : Carries 3 _ _ g.triples := .list Triple.carries
  refine ⟨.record ?_, ?_⟩
  · simp [htriples.plain]
  · rw [Graph.toTree, Graph.decode, Record.decode_record,
      Record.readEntries_given rfl rfl htriples.decode_eq]
    rfl

end Rdf

/-- The tree of a mode carries the mode. -/
theorem Mode.carries (m : Mode) : Carries 0 m.toTree (Mode.decode .jsonText) m := by
  refine ⟨.text m.word, ?_⟩
  cases m <;> rfl

/-- The tree of a set of modes carries the set. -/
theorem ModeSet.carries (s : ModeSet) : Carries 1 s.toTree (ModeSet.decode .jsonText) s := by
  have hmembers : Carries 1 _ _ s.toList := .list Mode.carries
  have hset := hmembers.map ModeSet.ofList
  rwa [ModeSet.ext fun m => ModeSet.mem_ofList.trans ModeSet.mem_toList] at hset

/-- The tree of a set of names carries the set. -/
theorem NameSet.carries (s : NameSet) : Carries 1 s.toTree NameSet.decode s := by
  have hmembers : Carries 1 _ _ s.toList := .list carries_text
  have hset := hmembers.map NameSet.ofList
  rwa [NameSet.ext fun x => NameSet.mem_ofList.trans NameSet.mem_toList] at hset

/-- The tree of an optional text carries the text or that it is missing. -/
theorem optionalText_carries (s : Option String) :
    Carries 0 (optionalText s) (asOption asText) s := by
  cases s with
  | none => exact .absent
  | some s => exact (carries_text s).given nofun

/-- The tree of a session carries the session. -/
theorem Session.carries (s : Session) : Carries 1 s.toTree (Session.decode .jsonText) s := by
  have hdelegate := optionalText_carries s.delegate
  refine ⟨.record ?_, ?_⟩
  · simp [hdelegate.plain, Tree.Plain.text]
  · rw [Session.toTree, Session.decode, Record.decode_record,
      Record.readEntries_given rfl rfl (carries_text s.agent).decode_eq,
      Record.readEntries_given rfl rfl hdelegate.decode_eq]
    rfl

/-- The tree of an outcome carries the outcome. -/
theorem Outcome.carries (o : Outcome) : Carries 2 o.toTree (Outcome.decode .jsonText) o := by
  have hacl := optionalText_carries o.effectiveAcl
  have hmodes := ModeSet.carries o.modes
  refine ⟨.record ?_, ?_⟩
  · simp [hacl.plain.mono (Nat.zero_le 1), hmodes.plain]
  · rw [Outcome.toTree, Outcome.decode, Record.decode_record,
      Record.readEntries_given rfl rfl hacl.decode_eq,
      Record.readEntries_given rfl rfl hmodes.decode_eq]
    rfl

/-- The tree of the subject of a rule carries the subject or that it is missing. -/
theorem Rule.subject_carries (s : Option Rdf.Term) :
    Carries 1 ((s.map Rdf.Term.toTree).getD .null) (asOption (Rdf.Term.decode .jsonText)) s := by
  cases s with
  | none => exact .absent
  | some s => exact s.carries.given s.toTree_ne_null

/-- The tree of a rule carries the rule. -/
theorem Rule.carries (r : Rule) : Carries 2 r.toTree (Rule.decode .jsonText) r := by
  have hsubject := Rule.subject_carries r.subject
  have hmodes := ModeSet.carries r.modes
  refine ⟨.record ?_, ?_⟩
  · simp [hsubject.plain, hmodes.plain, fun s => (NameSet.carries s).plain]
  · rw [Rule.toTree, Rule.decode, Record.decode_record,
      Record.readEntries_given rfl rfl hsubject.decode_eq,
      Record.readEntries_given rfl rfl (NameSet.carries r.agents).decode_eq,
      Record.readEntries_given rfl rfl (NameSet.carries r.agentGroups).decode_eq,
      Record.readEntries_given rfl rfl (NameSet.carries r.agentClasses).decode_eq,
      Record.readEntries_given rfl rfl (NameSet.carries r.accessTo).decode_eq,
      Record.readEntries_given rfl rfl (NameSet.carries r.defaultScope).decode_eq,
      Record.readEntries_given rfl rfl hmodes.decode_eq]
    rfl

/-- Every value is read from the JSON text that is written of it, as the value that it is. -/
def ReadsWhatItWrites {α : Type} (toTree : α → Tree) (decode : Origin → Tree → Decoded α) : Prop :=
  ∀ a, whole (decode .jsonText) (Json.read (Json.write (toTree a))) = .ok a

/-- The values of the model are read as they were written: terms, triples, graphs with their triples
in order and as often as they are listed, sets of modes, sessions, outcomes and rules. -/
theorem values_are_read_as_written :
    ReadsWhatItWrites Rdf.Term.toTree Rdf.Term.decode ∧
      ReadsWhatItWrites Rdf.Triple.toTree Rdf.Triple.decode ∧
      ReadsWhatItWrites Rdf.Graph.toTree Rdf.Graph.decode ∧
      ReadsWhatItWrites ModeSet.toTree ModeSet.decode ∧
      ReadsWhatItWrites Session.toTree Session.decode ∧
      ReadsWhatItWrites Outcome.toTree Outcome.decode ∧
      ReadsWhatItWrites Rule.toTree Rule.decode := by
  refine ⟨?_, ?_, ?_, ?_, ?_, ?_, ?_⟩
  · exact fun t => t.carries.whole_read_write (by decide)
  · exact fun t => t.carries.whole_read_write (by decide)
  · exact fun g => g.carries.whole_read_write (by decide)
  · exact fun s => s.carries.whole_read_write (by decide)
  · exact fun s => s.carries.whole_read_write (by decide)
  · exact fun o => o.carries.whole_read_write (by decide)
  · exact fun r => r.carries.whole_read_write (by decide)

end WebAccess
