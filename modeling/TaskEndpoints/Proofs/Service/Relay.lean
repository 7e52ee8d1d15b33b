import TaskEndpoints.Proofs.Engine.Samples
import TaskEndpoints.Proofs.Json.Relay
import TaskEndpoints.Proofs.Service.Agreement

/-!
# Samples are relayed without loss

A sample that the engine hands over as a document without doubles, in any of its forms, is answered as one
line of printable ASCII characters, from which the same value is read as from the sample.
-/

namespace TaskEndpoints

open Http Json.Standard

namespace Service

variable {s : Service} {w : Surroundings} {request : Request} {identifier t : String}
  {snapshot : List Container} {found : Listed} {fields : Fields} {v : Value}

/-- A request for the sample of a container comes to the object that the engine hands over as a text. -/
theorem view_containerStats (hw : w.engine.containers.outcome = .ok snapshot)
    (hf : ((s.description.query identifier request.address).find snapshot).outcome = .ok found)
    (hread : Json.read t = .ok (.map fields)) (hform : Json.Carries t v)
    (hv : w.engine.engine.sample found.1.id = .value v) :
    (s.view w request.address (.metadata .containerStats) identifier).outcome = .ok (.map fields) := by
  have htaken : (w.engine.engine.takeSample found.1.id).outcome = .ok fields := by
    rw [Engine.takeSample_of_carries hread hform hv]
  exact view_eq_ok_iff.mpr ((Description.containerStats_eq_ok_iff hw).mpr
    ⟨found, fields, hf, TimeLimit.guard_eq_ok_iff.mpr htaken, rfl⟩)

/-- A sample that is a document without doubles is answered as one printable line, from which the same
value is read as from the sample: each key where it came first, with the value that came last. -/
theorem sample_relayed_without_loss
    (h : s.Reaches request (.metadata .containerStats) identifier) (hm : request.method ≠ "HEAD")
    (hw : w.engine.containers.outcome = .ok snapshot)
    (hf : ((s.description.query identifier request.address).find snapshot).outcome = .ok found)
    (ht : Denotes t.toList (.element (.map fields))) (hform : Json.Carries t v)
    (hv : w.engine.engine.sample found.1.id = .value v) :
    ∃ line, (s.answer w request : Run Empty Answer).outcome = .ok (.json line) ∧
      (Answer.json line).body = line ++ "\n" ∧ (∀ c ∈ line.toList, IsPrintable c) ∧
      Json.read t = .ok (.map fields) ∧ Json.read (line ++ "\n") = .ok (.map fields) := by
  have hread : Json.read t = .ok (.map fields) := read_of_denotes ht
  obtain ⟨line, hline, hprintable, hdocument⟩ := exists_line ht
  refine ⟨line, ?_, rfl, hprintable, hread, read_of_denotes hdocument⟩
  have hview : (s.view w request.address (.metadata .containerStats) identifier).outcome =
      .ok (.map fields) := view_containerStats hw hf hread hform hv
  rw [outcome_of_text h (result_eq_ok_iff.mpr ⟨_, hview, hline⟩), if_neg hm]
  rfl

/-- A sample in which a name comes twice and a character is escaped as a pair of surrogates. -/
def pairSample : String := "\x7b\"k\":1,\"k\":\"\\ud83d\\ude00\"\x7d"

theorem quotes_pair : Quotes "\"\\ud83d\\ude00\"".toList "😀" := by
  have hd : ('d', 13) ∈ hexValues := by decide
  have he : ('e', 14) ∈ hexValues := by decide
  have hzero : ('0', 0) ∈ hexValues := by decide
  have hthree : ('3', 3) ∈ hexValues := by decide
  have height : ('8', 8) ∈ hexValues := by decide
  have hhigh : Escapes ['\\', 'u', 'd', '8', '3', 'd'] 0xd83d := .digits hd height hthree hd
  have hlow : Escapes ['\\', 'u', 'd', 'e', '0', '0'] 0xde00 := .digits hd he hzero hzero
  have hunits : List.Forall₂ Escapes [['\\', 'u', 'd', '8', '3', 'd'], ['\\', 'u', 'd', 'e', '0', '0']]
      (Json.units16 '😀'.toNat) := .cons hhigh (.cons hlow .nil)
  have hparts : List.Forall₂ Spells [['\\', 'u', 'd', '8', '3', 'd', '\\', 'u', 'd', 'e', '0', '0']]
      "😀".toList := .cons (.units hunits) .nil
  exact .parts hparts

theorem denotes_pairSample :
    Denotes pairSample.toList (.element (.map [(.text "k", .text "😀")])) := by
  have hname : Quotes "\"k\"".toList "k" := by
    have hparts : List.Forall₂ Spells [['k']] "k".toList :=
      .cons (.plain (by decide) (by decide) (by decide)) .nil
    exact .parts hparts
  have hone : Counts ['1'] 1 := .unsigned (.digits (by decide) (by decide) nofun) (by decide)
  have hfirst := hname.member (Denotes.int hone).element_of_value
  have hsecond := hname.member (Denotes.text quotes_pair).element_of_value
  have hlast : Assoc.Collects [(.text "k", .int 1), (.text "k", .text "😀")]
      [(Value.text "k", Value.text "😀")] :=
    { keys := by decide
      last := List.forall_mem_singleton.mpr ⟨[_], [], rfl, List.not_mem_nil⟩ }
  exact (Denotes.map (.nextMember hfirst (.lastMember hsecond)) hlast).element_of_value

/-- Surroundings with one container, whose sample is handed over in octets. -/
def pairSurroundings : Surroundings := .ofEngine
  ⟨⟨.value (.list [Entry.named "a1b2" "/web"]), fun _ =>
    .value (.octets (Text.Encoding.utf8.encode pairSample))⟩, .initial⟩

theorem sample_relayed_without_loss_example :
    ∃ line, ((ofRegistry Registry.initial none false).answer pairSurroundings
        ⟨"GET", MetadataKind.containerStats.target "a1b2", "10.0.0.1"⟩ : Run Empty Answer).outcome =
          .ok (.json line) ∧
      Json.read (line ++ "\n") = .ok (.map [(.text "k", .text "😀")]) := by
  have hasks := (ofRegistry Registry.initial none false).asks_target .containerStats
    (show "a1b2" ≠ "" by decide) (by decide) "10.0.0.1"
  have hw : pairSurroundings.engine.containers.outcome = .ok [Container.named "a1b2" "/web"] := by
    rfl
  have hf : (((ofRegistry Registry.initial none false).description.query "a1b2" "10.0.0.1").find
      [Container.named "a1b2" "/web"]).outcome = .ok (Container.named "a1b2" "/web", 0) := by
    rfl
  obtain ⟨line, hanswer, -, -, -, hread⟩ := sample_relayed_without_loss hasks.reaches
    (by decide) hw hf denotes_pairSample (.octets .utf8) rfl
  exact ⟨line, hanswer, hread⟩

end Service

end TaskEndpoints
