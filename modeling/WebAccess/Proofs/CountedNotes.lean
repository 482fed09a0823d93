import WebAccess.Proofs.Answers
import WebAccess.Telemetry.Recorder

/-!
# Notes that are counted

A recorder counts three kinds of notes: resolutions, look-ups in the cache and decisions. It counts
each of them under the note itself (`Telemetry.Recorder.tally_notes`), so what metrics say about a
call is read off the notes that the call takes. Here are those of the ways of building an inquiry or
a call, and of resolution, which takes one note that is counted if it answers and none if it stops
(`Store.counted_resolve`).
-/

set_option autoImplicit false

namespace WebAccess

namespace Note

/-- A recorder counts the note. -/
def isCounted : Note → Bool
  | .resolution _ | .cacheLookup _ | .decision _ => true
  | .read .. | .event _ => false

/-- None of the notes is counted. -/
def Uncounted (ns : List Note) : Prop := ∀ n ∈ ns, n.isCounted = false

/-- An event is not counted. -/
theorem uncounted_event (e : Event) : Uncounted [.event e] := by simp [Uncounted, isCounted]

/-- Reading from the store is not counted. -/
theorem uncounted_read (id : Identifier) (answered : Bool) : Uncounted [.read id answered] := by
  simp [Uncounted, isCounted]

variable {ns ns' : List Note}

/-- Nothing is counted in two sequences of notes if nothing is in either. -/
theorem Uncounted.append (h : Uncounted ns) (h' : Uncounted ns') : Uncounted (ns ++ ns') := by
  intro n hn
  rcases List.mem_append.1 hn with hn | hn
  · exact h n hn
  · exact h' n hn

/-- A note that is counted does not occur among notes that are not. -/
theorem Uncounted.count_eq_zero (h : Uncounted ns) {n : Note} (hn : n.isCounted = true) :
    ns.count n = 0 := by
  rw [List.count_eq_zero]
  intro hmem
  rw [h n hmem] at hn
  cases hn

/-- Of notes that are not counted none is left if only those that are stay. -/
theorem Uncounted.filter_eq_nil (h : Uncounted ns) : ns.filter isCounted = [] := by
  rw [List.filter_eq_nil_iff]
  intro n hn
  rw [h n hn]
  exact Bool.false_ne_true

end Note

namespace Telemetry.Recorder

/-- How often a note has been counted. -/
def tally (r : Recorder) : Note → Nat
  | .resolution true => r.found
  | .resolution false => r.notFound
  | .cacheLookup true => r.hits
  | .cacheLookup false => r.misses
  | .decision .granted => r.granted
  | .decision .unauthenticated => r.unauthenticated
  | .decision .forbidden => r.forbidden
  | .read .. | .event _ => 0

/-- An empty recorder has counted nothing. -/
theorem tally_empty (n : Note) : empty.tally n = 0 := by
  rcases n with _ | _ | (_ | _) | (_ | _) | (_ | _ | _) <;> rfl

/-- A note adds one to the tally under itself and nothing to any other. -/
theorem tally_note {n : Note} (h : n.isCounted = true) (r : Recorder) (taken : Note) :
    (r.note taken).tally n = r.tally n + [taken].count n := by
  rcases n with _ | _ | (_ | _) | (_ | _) | (_ | _ | _) <;>
    rcases taken with _ | _ | (_ | _) | (_ | _) | (_ | _ | _) <;>
      first | rfl | cases h

/-- Every note is counted under itself, and nothing else is. -/
theorem tally_notes {n : Note} (h : n.isCounted = true) (r : Recorder) (taken : List Note) :
    (r.notes taken).tally n = r.tally n + taken.count n := by
  induction taken generalizing r with
  | nil => rfl
  | cons first taken ih =>
    have hrest : (r.notes (first :: taken)).tally n = (r.note first).tally n + taken.count n :=
      ih (r.note first)
    have hcount : ([first] ++ taken).count n = [first].count n + taken.count n :=
      List.count_append
    rw [List.singleton_append] at hcount
    rw [hrest, tally_note h, hcount, Nat.add_assoc]

end Telemetry.Recorder

/-! ## Inquiries -/

namespace Inquiry

variable {α β : Type}

/-- The notes that an inquiry takes. -/
def notes (x : Inquiry α) : List Note := x.run.notes

/-- The notes of two inquiries in sequence are those of the first and, if it answers, those of the
second. -/
theorem notes_bind (x : Inquiry α) (f : α → Inquiry β) :
    notes (x >>= f) = notes x ++ match answer x with
      | .ok a => notes (f a)
      | .error _ => [] := by
  show Observed.notes (ExceptT.mk (x.run >>= ExceptT.bindCont f)).run = _
  simp only [notes, answer, ExceptT.run, ExceptT.mk, Observed.notes_bind]
  cases h : Observed.value x <;> rfl

/-- The inquiry takes no note that is counted. -/
def Silent (x : Inquiry α) : Prop := Note.Uncounted x.notes

/-- A plain value takes no note that is counted. -/
theorem silent_pure (a : α) : Silent (pure a) := nofun

/-- Stopping takes no note that is counted. -/
theorem silent_throw (stop : Stop) : Silent (throw stop : Inquiry α) := nofun

/-- Stopping with a fault takes no note that is counted. -/
theorem silent_fail (fault : Fault) : Silent (fail fault : Inquiry α) := nofun

/-- Reporting an event takes no note that is counted. -/
theorem silent_event (e : Event) : Silent (event e) := Note.uncounted_event e

/-- Noting that the store was read takes no note that is counted. -/
theorem silent_read (id : Identifier) (answered : Bool) : Silent (note (.read id answered)) :=
  Note.uncounted_read id answered

/-- Two inquiries in sequence take no counted note if neither does. -/
theorem Silent.bind {x : Inquiry α} {f : α → Inquiry β} (hx : x.Silent) (hf : ∀ a, (f a).Silent) :
    (x >>= f).Silent := by
  rw [Silent, notes_bind]
  refine Note.Uncounted.append hx ?_
  split
  · exact hf _
  · exact nofun

end Inquiry

namespace Store

open Inquiry

variable (s : Store)

/-- Fetching a resource takes no note that is counted. -/
theorem silent_fetch (id : Identifier) : (s.fetch id).Silent := by
  unfold fetch
  split
  · exact (silent_read id true).bind fun _ => silent_pure _
  · exact (silent_read id false).bind fun _ => silent_fail _

/-- Looking for rules at one place takes no note that is counted. -/
theorem silent_rulesAt (top : Bool) (id : Identifier) : (s.rulesAt top id).Silent := by
  refine (s.silent_fetch id).bind fun found => ?_
  split
  · exact silent_pure _
  · split
    · exact silent_pure _
    · split
      · exact (silent_event _).bind fun _ => silent_pure _
      · exact silent_pure _

/-- The walk up the containers takes no note that is counted. -/
theorem silent_search (top : Bool) (visited : List Identifier) (id : Identifier) (steps : Nat) :
    (s.search top visited id steps).Silent := by
  induction steps using Nat.strongRecOn generalizing top visited id with
  | ind steps ih =>
    unfold search
    refine (s.silent_rulesAt top id).bind fun rules => ?_
    split
    · exact silent_pure _
    · split
      · exact silent_pure _
      · exact (silent_event _).bind fun _ => silent_pure _
      · exact (silent_event _).bind fun _ => silent_fail _
      · split
        · exact silent_throw _
        · next rest => exact ih rest (Nat.lt_succ_self rest) false _ _

/-- Looking for a member of a group takes no note that is counted. -/
theorem silent_isMember (group agent : String) : (s.isMember group agent).Silent := by
  unfold isMember
  dsimp only
  split
  · exact (silent_read _ false).bind fun _ => silent_fail _
  · exact (silent_read _ true).bind fun _ => (silent_event _).bind fun _ => silent_pure _
  · exact (silent_read _ true).bind fun _ => silent_pure _

/-- Looking for a member of several groups takes no note that is counted. -/
theorem silent_anyMember (agent : String) (groups : List String) :
    (s.anyMember agent groups).Silent := by
  induction groups with
  | nil => exact silent_pure _
  | cons group groups ih =>
    refine (s.silent_isMember group agent).bind fun isMember => ?_
    split
    · exact silent_pure _
    · exact ih

/-- Deciding whether a rule admits an agent takes no note that is counted. -/
theorem silent_admits (anonymous : String) (rule : Rule) (agent : String) :
    (s.admits anonymous rule agent).Silent := by
  unfold admits
  split
  · exact silent_pure _
  · exact s.silent_anyMember agent _

/-- Collecting the modes that rules grant takes no note that is counted. -/
theorem silent_grantedModes (anonymous agent : String) (rules : List Rule) :
    (s.grantedModes anonymous agent rules).Silent := by
  induction rules with
  | nil => exact silent_pure _
  | cons rule rules ih =>
    refine (s.silent_admits anonymous rule agent).bind fun admitted => ?_
    split
    · exact (silent_event _).bind fun _ => ih.bind fun _ => silent_pure _
    · exact ih

/-- Of the notes of a resolution one is counted, if it answers: whether it found rules. -/
theorem counted_resolve (anonymous : String) (id : Identifier) (agent : String) :
    (s.resolve anonymous id agent).notes.filter Note.isCounted =
      match (s.resolve anonymous id agent).answer with
      | .ok outcome => [.resolution outcome.effectiveAcl.isSome]
      | .error _ => [] := by
  unfold resolve
  rw [notes_bind, answer_bind, List.filter_append, (s.silent_search true [] id _).filter_eq_nil,
    List.nil_append]
  rcases (s.search true [] id (s.horizon id)).answer with stop | _ | ⟨acl, rules⟩
  · rfl
  · rfl
  · have hmodes := (s.silent_grantedModes anonymous agent rules).filter_eq_nil
    simp only [ok_bind, notes_bind, answer_bind, List.filter_append, hmodes, List.nil_append]
    rcases (s.grantedModes anonymous agent rules).answer with stop | modes <;> rfl

end Store

/-! ## Calls -/

namespace Call

variable {α β : Type}

/-- The notes that a call on a service takes. -/
def notes (x : Call α) (service : Service) : List Note := (x.run.run service).notes

variable (service : Service)

/-- A plain value takes no notes. -/
@[simp] theorem notes_pure (a : α) : notes (pure a) service = [] := rfl

/-- Stopping takes no notes. -/
@[simp] theorem notes_throw (stop : Stop) : notes (throw stop : Call α) service = [] := rfl

/-- Asking for the service takes no notes. -/
@[simp] theorem notes_get : notes (get : Call Service) service = [] := rfl

/-- Replacing the service takes no notes. -/
@[simp] theorem notes_set (new : Service) : notes (set new : Call PUnit) service = [] := rfl

/-- Changing the service takes no notes. -/
@[simp] theorem notes_modify (f : Service → Service) :
    notes (modify f : Call PUnit) service = [] := rfl

/-- An inquiry within a call takes the notes that it takes by itself. -/
@[simp] theorem notes_ofInquiry (x : Inquiry α) : notes (ofInquiry x) service = x.notes := by
  show x.notes ++ [] = x.notes
  exact List.append_nil _

/-- Taking a note takes this one. -/
@[simp] theorem notes_note (n : Note) : notes (note n) service = [n] := rfl

/-- Reporting an event takes the note of it. -/
@[simp] theorem notes_event (e : Event) : notes (event e) service = [.event e] := rfl

/-- The notes of two calls in sequence are those of the first and, if it answers, those of the
second on the service that is left. -/
@[simp] theorem notes_bind (x : Call α) (f : α → Call β) :
    notes (x >>= f) service = notes x service ++ match answer x service with
      | .ok a => notes (f a) (after x service)
      | .error _ => [] := by
  show (StateT.run (ExceptT.run (x >>= f)) service).notes = _
  rw [ExceptT.run_bind, StateT.run_bind, Observed.notes_bind]
  unfold answer after notes
  cases (x.run.run service).value with
  | mk a s => cases a <;> rfl

/-- A mapped call takes the notes of the call. -/
@[simp] theorem notes_map (f : α → β) (x : Call α) :
    notes (f <$> x) service = notes x service := by
  rw [map_eq_pure_bind, notes_bind]
  cases answer x service <;> exact List.append_nil _

/-- A fault is reported after what the call does. -/
theorem notes_onFault (e : Event) (x : Call α) :
    notes (onFault e x) service = notes x service ++ match answer x service with
      | .error (.failed _) => [.event e]
      | .error .unfinished | .ok _ => [] := by
  unfold onFault notes answer
  simp only [tryCatch, tryCatchThe, MonadExceptOf.tryCatch, ExceptT.tryCatch, ExceptT.run_mk,
    StateT.run_bind, Observed.notes_bind]
  show x.notes service ++ _ = x.notes service ++ _
  rcases h : (StateT.run (ExceptT.run x) service).value with ⟨a, s⟩
  simp only [ExceptT.run] at h
  rw [h]
  rcases a with (_ | _) | _ <;> rfl

end Call

end WebAccess
