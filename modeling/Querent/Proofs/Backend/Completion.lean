import Querent.Backend.Provider
import Querent.Proofs.Json.Fields
import Querent.Proofs.Text.Blank

/-! What the reply of a server of models is taken to say. The shapes of the three kinds of replies are read
to their end before any of it counts. -/
namespace Querent.Backend
open Json (Piece)
open Json.Piece (Behind IsText ListOf Optional Sole Whole)

def IsGenerated : Piece → String → Prop := Sole "response" IsText (some "")

def IsMessage : Piece → Option String → Prop :=
  Behind "role" IsText none "content" (Optional IsText) (some none)

def IsChoice : Piece → Option String → Prop := Sole "message" IsMessage none

def IsChat : Piece → List (Option String) → Prop := Sole "choices" (ListOf IsChoice) (some [])

def IsPart : Piece → String → Prop := Sole "text" IsText (some "")

def IsContent : Piece → List String → Prop :=
  Behind "role" (Optional IsText) (some none) "parts" (ListOf IsPart) (some [])

def IsCandidate (p : Piece) (content : Option (List String)) : Prop :=
  Sole "content" (Optional IsContent) (some none) p content ∧ ¬p.IsList []

def IsCandidates : Piece → List (Option (List String)) → Prop :=
  Sole "candidates" (ListOf IsCandidate) (some [])

def Says : Provider → List Char → String → Prop
  | .ollama _, body, t => Whole IsGenerated body t
  | .openai .., body, t => ∃ choices, Whole IsChat body choices ∧ t = match choices with
    | some content :: _ => content
    | _ => ""
  | .gemini .., body, t => ∃ found, Whole IsCandidates body found ∧ t = match found with
    | some parts :: _ => String.join parts
    | _ => ""

namespace Provider
open Json.Reader (Reads behindReads documentIff fieldsStart kept listReads mapOk optionalReads optionalTextReads
  record soleIff soleListed soleReads textReads)

theorem generatedReads : Reads generated IsGenerated :=
  soleReads "GenerateResponse" "response" (some "") textReads (by simp)

theorem chatReads : Reads chat IsChat := by
  have message : Reads chatMessage IsMessage :=
    behindReads "ChatMessage" "role" none "content" (some none) textReads optionalTextReads (by simp)
      (by decide)
  have choice : Reads chatChoice IsChoice := soleReads "ChatChoice" "message" none message (by simp)
  exact soleReads "ChatResponse" "choices" (some []) (listReads choice) (by simp)

theorem contentReads : Reads (Json.Reader.optional content) (Optional IsContent) := by
  have part : Reads part IsPart := soleReads "Part" "text" (some "") textReads (by simp)
  have content : Reads content IsContent :=
    behindReads "Content" "role" (some none) "parts" (some []) optionalTextReads (listReads part)
      (by simp) (by decide)
  exact optionalReads content fun _ _ cs ⟨_,_,fields,_⟩ => fieldsStart fields cs

theorem listNextIff (p : Piece) : listNext p.start = true ↔ ∃ cs, Json.Gap p.start ('[' :: cs) := by
  unfold listNext
  constructor
  · intro next
    obtain ⟨cs,start⟩ := List.head?_eq_some_iff.mp (beq_iff_eq.mp next)
    exact ⟨cs,Json.Reader.gapOfSkip start⟩
  · rintro ⟨cs,bracket⟩
    rw [Json.Reader.skipToken bracket rfl]
    rfl

theorem candidateIff (p : Piece) (c : Option (List String)) :
    candidate p.start = .ok (c,p.stop) ↔ IsCandidate p c := by
  unfold candidate
  cases next : listNext p.start with
  | true =>
    have sole : record "Candidate" [kept "content" none (Json.Reader.optional content)] none p.start =
        .ok (c,p.stop) ↔ Sole "content" (Optional IsContent) none p c :=
      soleIff contentReads (by simp)
    obtain ⟨cs,bracket⟩ := (listNextIff p).mp next
    exact sole.trans (soleListed bracket)
  | false =>
    have sole : record "Candidate" [kept "content" (some none) (Json.Reader.optional content)] none p.start =
        .ok (c,p.stop) ↔ Sole "content" (Optional IsContent) (some none) p c :=
      soleIff contentReads (by simp)
    have other : ¬p.IsList [] := fun ⟨cs,bracket,_⟩ =>
      Bool.eq_false_iff.mp next ((listNextIff p).mpr ⟨cs,bracket⟩)
    exact sole.trans (and_iff_left other).symm

theorem candidateReads : Reads candidate IsCandidate where
  blank cs := by simp only [candidate,listNext,Json.Reader.skipSkip,Json.Reader.recordSkip]
  element := fun _ _ ⟨⟨_,fields,_⟩,_⟩ => Json.Reader.fieldsElement fields
  iff := candidateIff

theorem candidatesReads : Reads candidates IsCandidates :=
  soleReads "GenerateContentResponse" "candidates" (some []) (listReads candidateReads) (by simp)

theorem completionTextIff (p : Provider) (body : List Char) (t : String) :
    p.completionText body = .ok t ↔ Says p body t := by
  cases p with
  | ollama c => exact documentIff generatedReads
  | openai c key =>
    refine mapOk.trans (exists_congr fun choices => ?_)
    rw [documentIff chatReads]
    rcases choices with _ | ⟨_ | content,_⟩ <;> rfl
  | gemini c key =>
    refine mapOk.trans (exists_congr fun found => ?_)
    rw [documentIff candidatesReads]
    rcases found with _ | ⟨_ | parts,_⟩ <;> rfl

end Provider

namespace Reply

def text (r : Reply) : List Char := Text.Utf8.lossy r.body

def Successful (r : Reply) : Prop := 200 ≤ r.status ∧ r.status < 300

end Reply

structure Completes (p : Provider) (reply : Reply) (answer : Except Failure String) : Prop where
  text : ∀ t, answer = .ok t ↔ reply.Successful ∧ Says p reply.text t ∧ Text.Visible t
  status : answer = .error (.status p.name reply.status (String.ofList reply.text)) ↔ ¬reply.Successful
  unreadable : (∃ reason, answer = .error (.unreadable p.name reason)) ↔
    reply.Successful ∧ ∀ t, ¬Says p reply.text t
  empty : answer = .error (.emptyCompletion p.name) ↔
    reply.Successful ∧ ∃ t, Says p reply.text t ∧ ¬Text.Visible t

inductive Answers (b : Backend) : Prompt → Except Failure String → Prop where
  | query (schema : Schema) (question : String) :
      Answers b (.forQuery schema question) (b.query schema question)
  | summary (result : ResultSet) (question : String) :
      Answers b (.forSummary result question) (b.summary result question)

namespace Provider
variable {p : Provider} {network : Network} {prompt : Prompt} {answer : Except Failure String}
  {reply : Reply}

theorem answersAsk (answers : Answers (p.backend network) prompt answer) : answer = p.ask network prompt := by
  cases answers with
  | query | summary => rfl

theorem refused (fails : ¬reply.Successful) :
    p.completion reply = .error (.status p.name reply.status (String.ofList reply.text)) := by
  have outside : (decide (reply.status < 200) || decide (300 ≤ reply.status)) = true := by
    simp only [Reply.Successful,Bool.or_eq_true,decide_eq_true_eq] at *
    omega
  exact if_pos outside

theorem accepted (succeeds : reply.Successful) : p.completion reply =
    match p.completionText reply.text with
    | .error fault => .error (.unreadable p.name (fault.message reply.text))
    | .ok s => if Text.isBlankText s then .error (.emptyCompletion p.name) else .ok s := by
  have inside : ¬(decide (reply.status < 200) || decide (300 ≤ reply.status)) = true := by
    obtain ⟨low,high⟩ := succeeds
    simp only [Bool.or_eq_true,decide_eq_true_eq]
    omega
  exact if_neg inside

theorem completesRefused (fails : ¬reply.Successful) : Completes p reply (p.completion reply) := by
  rw [refused fails]
  constructor <;> simp [fails]

theorem completesUnreadable (succeeds : reply.Successful) {fault : Json.Fault}
    (read : p.completionText reply.text = .error fault) : Completes p reply (p.completion reply) := by
  have silent (t : String) : ¬Says p reply.text t := by
    rw [← completionTextIff,read]
    simp
  rw [accepted succeeds,read]
  constructor <;> simp [succeeds,silent]

theorem completesRead (succeeds : reply.Successful) {s : String}
    (read : p.completionText reply.text = .ok s) : Completes p reply (p.completion reply) := by
  have said (t : String) : Says p reply.text t ↔ s = t := by
    rw [← completionTextIff,read,Except.ok.injEq]
  rw [accepted succeeds,read]
  dsimp only
  split
  · rename_i blank
    have blank : ¬Text.Visible s := fun visible => Text.visibleIff.mp visible blank
    refine ⟨fun t => iff_of_false (by simp) ?_,by simp [succeeds],by simp [said],by simpa [succeeds,said]⟩
    rintro ⟨-,same,visible⟩
    exact blank ((said t).mp same ▸ visible)
  · rename_i visible
    have visible : Text.Visible s := Text.visibleIff.mpr visible
    refine ⟨fun t => ?_,by simp [succeeds],by simp [said],by simp [said,succeeds,visible]⟩
    rw [Except.ok.injEq,said]
    exact ⟨fun same => ⟨succeeds,same,same ▸ visible⟩,fun told => told.2.1⟩

theorem completes (answers : Answers (p.backend network) prompt answer)
    (replies : network (p.request prompt) = some reply) : Completes p reply answer := by
  have comes : answer = p.completion reply := by rw [answersAsk answers,ask,replies]
  rw [comes]
  by_cases succeeds : reply.Successful
  · cases read : p.completionText reply.text with
    | error fault => exact completesUnreadable succeeds read
    | ok s => exact completesRead succeeds read
  · exact completesRefused succeeds

def twoCandidates : Reply := ⟨299,Text.Utf8.encode (
  "\x7b\"candidates\":[\x7b\"content\":\x7b\"parts\":" ++
    "[\x7b\"text\":\" A\"\x7d,\x7b\x7d,[\"\\n\"]]\x7d\x7d,\x7b\x7d]\x7d").toList⟩

theorem firstCandidateCompletes :
    ((gemini {} "key").backend fun _ => some twoCandidates).query .empty "" = .ok " A\n" ∧
      Says (gemini {} "key") twoCandidates.text " A\n" := by
  have answered : ((gemini {} "key").backend fun _ => some twoCandidates).query .empty "" = .ok " A\n" := by
    decide +kernel
  have answers : Answers ((gemini {} "key").backend fun _ => some twoCandidates) _ _ := .query .empty ""
  exact ⟨answered,(((completes answers rfl).text _).mp answered).2.1⟩

-- The second choice has no message.
example : (completionText (openai {} "key")
    "\x7b\"choices\":[[[\"user\",\"A\"]],\x7b\x7d]\x7d".toList).toOption = none := by decide +kernel

end Provider
end Querent.Backend
