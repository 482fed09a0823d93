import Mathlib.Data.List.TakeWhile
import WebAccess.Proofs.Admission
import WebAccess.Proofs.PathCuts
import WebAccess.Proofs.WalkPlaces

/-!
# The documents of groups

The members of a group stand in the document that its reference points into: the text in front of
the first query or fragment, without one slash at its end (`Identifier.PointsInto`). The library
cuts at the first fragment, then at the first query, then at the slash. The first two cuts are one,
at whichever mark comes first, also where a fragment holds a query mark or the other way round. So
a reference points into the document that is computed, and into no other
(`Identifier.pointsInto_iff`).

Main statement: one document is read to decide whether a group lists an agent, and of all that it
holds, only statements of membership about the group or the document, with an IRI as the member,
have a say (`Store.member_iff_document_lists`).
-/

set_option autoImplicit false

namespace WebAccess

namespace Identifier

/-- No query and no fragment begins in the text. -/
def Unmarked (text : String) : Prop := ∀ c ∈ text.toList, c ≠ '?' ∧ c ≠ '#'

/-- The text begins with a query or a fragment. -/
def BeginsMarked (text : String) : Prop := ∃ rest, text = "?" ++ rest ∨ text = "#" ++ rest

/-- The reference points into the document: what stands in front of its first query or fragment is
the document, up to one slash at the end. -/
def PointsInto (reference document : String) : Prop :=
  ∃ front tail, reference = front ++ tail ∧ Unmarked front ∧ (tail = "" ∨ BeginsMarked tail) ∧
    (front = document ++ "/" ∨ front = document ∧ ∀ before, document ≠ before ++ "/")

/-- The references to a document: the document itself or with a slash behind it, alone or with a
query, a fragment or both. -/
def referencesTo (document query fragment : String) : List String :=
  [document, document ++ "/", document ++ "#" ++ fragment, document ++ "?" ++ query,
    document ++ "?" ++ query ++ "#" ++ fragment, document ++ "/" ++ "#" ++ fragment,
    document ++ "/" ++ "?" ++ query ++ "#" ++ fragment]

variable {cs front tail : List Char} {reference document : String}

/-- What is left by the cuts at the fragment and at the query is the text in front of the first
mark. -/
theorem takeWhile_marks (hfront : ∀ c ∈ front, c ≠ '?' ∧ c ≠ '#')
    (htail : ∀ c ∈ tail.head?, c = '?' ∨ c = '#') :
    ((front ++ tail).takeWhile (· ≠ '#')).takeWhile (· ≠ '?') = front := by
  rw [List.takeWhile_takeWhile, List.takeWhile_append_of_pos (by simpa using hfront)]
  cases tail with
  | nil => simp
  | cons c tail =>
    have hmark : c = '?' ∨ c = '#' := htail c rfl
    rw [List.takeWhile_cons_of_neg (by simpa [or_iff_not_imp_left] using hmark), List.append_nil]

/-- Taking a slash off the end of a text leaves what stands in front of it, or the whole text if it
does not end with one. -/
theorem dropTrailingSlash_eq_iff {rest : List Char} :
    dropTrailingSlash cs = rest ↔
      cs = rest ++ ['/'] ∨ cs = rest ∧ ∀ before, rest ≠ before ++ ['/'] := by
  unfold dropTrailingSlash
  constructor
  · rintro rfl
    obtain ⟨tail, htail, rfl | ⟨rfl, hnot⟩⟩ := dropTrailingSlash_cases cs
    · exact .inl htail
    · exact .inr ⟨htail.trans (List.append_nil _), hnot⟩
  · rintro (rfl | ⟨rfl, hnot⟩)
    · simp
    · rw [if_neg]
      intro hlast
      obtain ⟨before, hbefore⟩ := List.getLast?_eq_some_iff.1 hlast
      exact hnot before hbefore

/-! ## The document of a reference -/

/-- The document that a reference points into is the one that is computed. -/
theorem PointsInto.groupDocument_eq (h : PointsInto reference document) :
    groupDocument reference = document := by
  obtain ⟨front, tail, rfl, hfront, htail, hend⟩ := h
  have hmark : ∀ c ∈ tail.toList.head?, c = '?' ∨ c = '#' := by
    rcases htail with rfl | ⟨rest, rfl | rfl⟩ <;> simp
  have hcut : dropTrailingSlash front.toList = document.toList := by
    apply dropTrailingSlash_eq_iff.2
    rcases hend with rfl | ⟨rfl, hnot⟩
    · exact .inl String.toList_append
    · right
      refine ⟨rfl, fun before hbefore => hnot (String.ofList before) ?_⟩
      rw [← String.toList_inj, hbefore, String.toList_append, String.toList_ofList]
      rfl
  rw [groupDocument, String.toList_append, takeWhile_marks hfront hmark, hcut, String.ofList_toList]

/-- Every reference points into some document. -/
theorem exists_pointsInto (reference : String) : ∃ document, PointsInto reference document := by
  let plain : Char → Bool := fun c => c ≠ '?' ∧ c ≠ '#'
  let front := reference.toList.takeWhile plain
  let tail := reference.toList.dropWhile plain
  refine ⟨String.ofList (dropTrailingSlash front), String.ofList front, String.ofList tail, ?_, ?_,
    ?_, ?_⟩
  · rw [← String.ofList_append, List.takeWhile_append_dropWhile, String.ofList_toList]
  · intro c hc
    rw [String.toList_ofList] at hc
    simpa [plain] using List.mem_takeWhile_imp hc
  · have hhead := List.head?_dropWhile_not plain reference.toList
    cases htail : tail with
    | nil => exact .inl rfl
    | cons c rest =>
      have hmark : c = '?' ∨ c = '#' := by
        have hc : plain c = false := by simpa [tail, htail] using hhead
        simpa [plain, or_iff_not_imp_left] using hc
      right
      refine ⟨String.ofList rest, ?_⟩
      rcases hmark with rfl | rfl
      · left
        rw [← List.singleton_append, String.ofList_append]
      · right
        rw [← List.singleton_append, String.ofList_append]
  · rcases dropTrailingSlash_eq_iff.1 (rfl : dropTrailingSlash front = _) with
      hslash | ⟨hsame, hnot⟩
    · left
      conv => lhs; rw [hslash, String.ofList_append]
    · right
      refine ⟨congrArg String.ofList hsame, fun before hbefore => hnot before.toList ?_⟩
      rw [← String.toList_ofList (l := dropTrailingSlash front), hbefore, String.toList_append]
      rfl

/-- A reference points into the document that is computed, and into no other. -/
theorem pointsInto_iff : PointsInto reference document ↔ groupDocument reference = document := by
  constructor
  · exact PointsInto.groupDocument_eq
  · rintro rfl
    obtain ⟨document, h⟩ := exists_pointsInto reference
    rwa [h.groupDocument_eq]

/-- A slash at the end begins neither a query nor a fragment. -/
theorem Unmarked.append_slash (h : Unmarked document) : Unmarked (document ++ "/") := by
  intro c hc
  rw [String.toList_append] at hc
  rcases List.mem_append.1 hc with hin | hin
  · exact h c hin
  · obtain rfl := List.mem_singleton.1 hin
    decide

/-- All references to a document point into it. -/
theorem pointsInto_of_mem_referencesTo {query fragment : String} (hplain : Unmarked document)
    (hend : ∀ before, document ≠ before ++ "/")
    (h : reference ∈ referencesTo document query fragment) : PointsInto reference document := by
  have hbare : ∀ tail, (tail = "" ∨ BeginsMarked tail) → PointsInto (document ++ tail) document :=
    fun tail htail => ⟨document, tail, rfl, hplain, htail, .inr ⟨rfl, hend⟩⟩
  have hslash : ∀ tail, (tail = "" ∨ BeginsMarked tail) →
      PointsInto (document ++ "/" ++ tail) document :=
    fun tail htail => ⟨document ++ "/", tail, rfl, hplain.append_slash, htail, .inl rfl⟩
  have hquery : ∀ rest, BeginsMarked ("?" ++ rest) := fun rest => ⟨rest, .inl rfl⟩
  have hfragment : ∀ rest, BeginsMarked ("#" ++ rest) := fun rest => ⟨rest, .inr rfl⟩
  simp only [referencesTo, List.mem_cons, List.not_mem_nil, or_false, String.append_assoc] at h
  rcases h with rfl | rfl | rfl | rfl | rfl | rfl | rfl
  · simpa using hbare "" (.inl rfl)
  · simpa using hslash "" (.inl rfl)
  · exact hbare _ (.inr (hfragment fragment))
  · exact hbare _ (.inr (hquery query))
  · exact hbare _ (.inr (hquery _))
  · simpa [String.append_assoc] using hslash _ (.inr (hfragment fragment))
  · simpa [String.append_assoc] using hslash _ (.inr (hquery (query ++ ("#" ++ fragment))))

end Identifier

/-! ## Looking up members -/

open Rdf (Graph Triple)

namespace Store

open Identifier (PointsInto Unmarked groupDocument referencesTo)

variable {s s' : Store} {group agent : String}

/-- Looking for a member of a group reads the document of the group, once, and nothing else. -/
theorem reads_isMember (s : Store) (group agent : String) :
    (s.isMember group agent).reads = [groupDocument group] := by
  unfold isMember
  rcases hread : s.read (groupDocument group) with fault | _ | r
  · simp only [hread]
    rfl
  · simp only [hread]
    rfl
  · simp only [hread]
    rfl

/-- The statement counts where members are looked up: it says of the group or of its document that
an IRI is a member. -/
def Counts (group document : String) (t : Triple) : Prop :=
  (t.subject = .iri group ∨ t.subject = .iri document) ∧ t.predicate = Vocab.hasMember.iri ∧
    ∃ member, t.object = .iri member

/-- Documents with the same statements that count list the same members. -/
theorem answer_isMember_of_counts {r r' : Resource}
    (hread : s.read (groupDocument group) = .ok (some r))
    (hread' : s'.read (groupDocument group) = .ok (some r'))
    (hsame : ∀ t, Counts group (groupDocument group) t →
      (t ∈ r.content.triples ↔ t ∈ r'.content.triples)) :
    (s'.isMember group agent).answer = (s.isMember group agent).answer := by
  have hcontains : ∀ subject ∈ [group, groupDocument group],
      r'.content.contains ⟨.iri subject, Vocab.hasMember.iri, .iri agent⟩ =
        r.content.contains ⟨.iri subject, Vocab.hasMember.iri, .iri agent⟩ := by
    intro subject hsubject
    have hcounts : Counts group (groupDocument group)
        ⟨.iri subject, Vocab.hasMember.iri, .iri agent⟩ :=
      ⟨by simpa using hsubject, rfl, agent, rfl⟩
    rw [Bool.eq_iff_iff, Graph.contains_iff, Graph.contains_iff]
    exact (hsame _ hcounts).symm
  rw [answer_isMember, answer_isMember, hread, hread']
  simp only [hcontains group (by simp), hcontains (groupDocument group) (by simp)]

/-- A reference points into one document. To decide whether the group lists an agent, this document
is read and nothing else. If it cannot be read, the fault names the group. Otherwise the answer is
yes exactly if a resource is stored there whose content states, of the group or of the document,
that the IRI of the agent is a member; and no statement has a say but those of some IRI as a member
of the group or of the document. A document without marks in its name and without a slash at its end
is the one that is read for each of the references to it. -/
theorem member_iff_document_lists (s : Store) (group agent : String) :
    (∃ document, (∀ other, PointsInto group other ↔ other = document) ∧
      (s.isMember group agent).reads = [document] ∧
      (∀ fault, s.read document = .error fault →
        (s.isMember group agent).answer = .error (.failed (.group group fault.message))) ∧
      (∀ found, s.read document = .ok found → ∃ b, (s.isMember group agent).answer = .ok b ∧
        (b = true ↔ ∃ r, found = some r ∧
          (r.content.States (.iri group) .hasMember agent ∨
            r.content.States (.iri document) .hasMember agent))) ∧
      ∀ (s' : Store) r r', s.read document = .ok (some r) → s'.read document = .ok (some r') →
        (∀ t, Counts group document t → (t ∈ r.content.triples ↔ t ∈ r'.content.triples)) →
        (s'.isMember group agent).answer = (s.isMember group agent).answer) ∧
    ∀ document, Unmarked document → (∀ before, document ≠ before ++ "/") →
      ∀ query fragment, ∀ reference ∈ referencesTo document query fragment,
        (s.isMember reference agent).reads = [document] := by
  constructor
  · refine ⟨groupDocument group, ?_, reads_isMember s group agent, ?_, ?_, ?_⟩
    · intro other
      rw [Identifier.pointsInto_iff, eq_comm]
    · intro fault hread
      rw [answer_isMember, hread]
    · intro found hread
      have hlists : s.ListsMember group agent ↔ ∃ r, found = some r ∧
          (r.content.States (.iri group) .hasMember agent ∨
            r.content.States (.iri (groupDocument group)) .hasMember agent) := by
        simp [ListsMember, hread]
      rcases hanswer : (s.isMember group agent).answer with stop | b
      · rw [answer_isMember, hread] at hanswer
        cases found <;> cases hanswer
      · exact ⟨b, rfl, (isMember_eq_ok hanswer).trans hlists⟩
    · intro s' r r' hread hread' hsame
      exact answer_isMember_of_counts hread hread' hsame
  · intro document hplain hend query fragment reference hreference
    rw [reads_isMember,
      (Identifier.pointsInto_of_mem_referencesTo hplain hend hreference).groupDocument_eq]

/-- A document that makes `bob` a member of one group. For `carol` it has a literal, a statement
about another group, and one in its access-control graph. -/
def teamDocument : Resource where
  identifier := "/team"
  content := Graph.ofList
    [⟨.iri "/team/?v=1#x?y", Vocab.hasMember.iri, .iri "bob"⟩,
      ⟨.iri "/team", Vocab.hasMember.iri, .literal "carol"⟩,
      ⟨.iri "/team#z", Vocab.hasMember.iri, .iri "carol"⟩]
  acl := some <| Graph.ofList [⟨.iri "/team", Vocab.hasMember.iri, .iri "carol"⟩]

/-- The document is found through a query behind its slash and a fragment with another query mark,
as it is through each of the references to it. It lists `bob`, and not `carol`. -/
theorem bob_listed_behind_two_marks :
    let s := (Memory.empty.put teamDocument).toStore
    s.read "/team" = .ok (some teamDocument) ∧
      (s.isMember "/team/?v=1#x?y" "bob").answer = .ok true ∧
      (s.isMember "/team/?v=1#x?y" "carol").answer = .ok false ∧
      (s.isMember "/team/?v=1#x?y" "bob").reads = ["/team"] := by
  intro s
  have hdocument : groupDocument "/team/?v=1#x?y" = "/team" := by decide +kernel
  have hread : s.read "/team" = .ok (some teamDocument) := by decide +kernel
  have hanswer : ∀ agent, ∃ b, (s.isMember "/team/?v=1#x?y" agent).answer = .ok b ∧
      (b = true ↔ teamDocument.content.States (.iri "/team/?v=1#x?y") .hasMember agent ∨
        teamDocument.content.States (.iri "/team") .hasMember agent) := by
    intro agent
    obtain ⟨⟨document, hpoints, -, -, hfound, -⟩, -⟩ :=
      member_iff_document_lists s "/team/?v=1#x?y" agent
    obtain rfl := (hpoints "/team").1 (Identifier.pointsInto_iff.2 hdocument)
    obtain ⟨b, hb, hlists⟩ := hfound (some teamDocument) hread
    refine ⟨b, hb, hlists.trans ⟨?_, fun hstates => ⟨teamDocument, rfl, hstates⟩⟩⟩
    rintro ⟨r, hr, hstates⟩
    obtain rfl := Option.some.inj hr
    exact hstates
  have hplain : Unmarked "/team" := by
    have hletters : "/team".toList = ['/', 't', 'e', 'a', 'm'] := by decide
    intro c hc
    rw [hletters] at hc
    simp only [List.mem_cons, List.not_mem_nil, or_false] at hc
    rcases hc with rfl | rfl | rfl | rfl | rfl <;> decide
  have hend : ∀ before, "/team" ≠ before ++ "/" := by
    intro before h
    have hlast : "/team".toList.getLast? = some 'm' := by decide +kernel
    have hslash : (before ++ "/").toList.getLast? = some '/' := by
      rw [String.toList_append]
      exact List.getLast?_concat
    rw [h, hslash] at hlast
    exact absurd (Option.some.inj hlast) (by decide)
  obtain ⟨-, hreferences⟩ := member_iff_document_lists s "/team/?v=1#x?y" "bob"
  refine ⟨hread, ?_, ?_, hreferences "/team" hplain hend "v=1" "x?y" _ (by decide +kernel)⟩
  · obtain ⟨b, hb, hlists⟩ := hanswer "bob"
    obtain rfl : b = true := hlists.2 (.inl (by unfold Graph.States; decide +kernel))
    exact hb
  · obtain ⟨b, hb, hlists⟩ := hanswer "carol"
    have hnot : ¬b = true := by
      rw [hlists]
      unfold Graph.States
      decide +kernel
    rwa [Bool.eq_false_iff.2 hnot] at hb

end Store

end WebAccess
