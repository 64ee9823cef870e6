import Bootstrapper.Proofs.Handover
import Bootstrapper.Proofs.Json.RoundTrip
import Bootstrapper.Proofs.Text.Lines
import Bootstrapper.Proofs.Text.WellFormed
import Bootstrapper.Suite.Report

/-!
# The report of a host

The demo host tells on one line what it was handed, and the suite looks for that line in everything
that was printed. This module shows that the suite reads what the host was handed, whatever the
texts are and whatever is printed after them:

* **`report_eq`**, **`readable_report`**: the report is a value that is read back
  (`Proofs.Json.RoundTrip`), and its printed form is one line.
* **`Shows`**: what is read of a report, and `shows_report`, that it is what a payload hands over.
* **`report_cannot_be_forged`**: the main statement.

The texts are chosen by whoever starts the application. What keeps them from ending the line or from
beginning another one with the mark is that no control character is printed as it is.
-/

namespace Bootstrapper.Suite

open DemoHost (report reportMark callApplicationMain)

/-! ## The report as a value -/

def reportFields (payload : Payload) (environment : Variables) : List (String × Json) := [
  ("application_base", .ofOption (Payload.text? payload.base)),
  ("args", .array (payload.arguments.map .string)),
  ("console_host", .ofOption ((environment.get consoleVariable).bind Utf8.decode?)),
  ("runtime_directory", .ofOption (Payload.text? payload.runtime))]

theorem reportFields_sorted (payload : Payload) (environment : Variables) :
    (reportFields payload environment).Pairwise fun a b => a.1 < b.1 := by
  have hnames : ["application_base", "args", "console_host", "runtime_directory"].Pairwise
      fun (a b : String) => a < b := by
    decide +kernel
  exact List.pairwise_map.1 hnames

/-- The fields of a report stand in the order in which they are written. -/
theorem report_eq (payload : Payload) (environment : Variables) :
    report payload environment = .object (reportFields payload environment) :=
  Json.ofFields_of_sorted (reportFields_sorted payload environment)

theorem readable_ofOption (depth : Nat) (text? : Option String) :
    Json.Readable depth (.ofOption text?) := by
  cases text? with
  | none => exact .null depth
  | some text => exact .string depth text

/-- A report is read back: it has no numbers and is two levels deep. -/
theorem readable_report (payload : Payload) (environment : Variables) :
    Json.Readable Json.depthLimit (report payload environment) := by
  have harguments : Json.Readable 126 (.array (payload.arguments.map .string)) := by
    refine .array fun element helement => ?_
    obtain ⟨argument, _, rfl⟩ := List.mem_map.1 helement
    exact .string _ argument
  rw [report_eq]
  refine .object ?_ (reportFields_sorted payload environment)
  simp only [reportFields, List.forall_mem_cons, List.not_mem_nil, false_imp_iff, implies_true,
    and_true]
  exact ⟨readable_ofOption _ _, harguments, readable_ofOption _ _, readable_ofOption _ _⟩

/-! ## What is read of a report -/

/-- What a reader of a report finds: the texts that were handed over, and the value of the marker of
a console launch, which is null if there is none or if it is no text. -/
structure Shows (report : Json) (base runtime : String) (arguments : List String)
    (mark : Option Bytes) : Prop where
  base : report.field "application_base" = .string base
  runtime : report.field "runtime_directory" = .string runtime
  arguments : report.field "args" = .array (arguments.map .string)
  marked : ∀ text, report.field "console_host" = .string text ↔ mark = some (Utf8.encode text)
  unmarked : report.field "console_host" = .null ↔ ∀ text, mark ≠ some (Utf8.encode text)

theorem bind_decode?_eq_some_iff {mark : Option Bytes} {text : String} :
    mark.bind Utf8.decode? = some text ↔ mark = some (Utf8.encode text) := by
  rw [Option.bind_eq_some_iff]
  constructor
  · rintro ⟨bytes, rfl, hdecode⟩
    rw [Utf8.decode?_eq_some_iff.1 hdecode]
  · rintro rfl
    exact ⟨_, rfl, Utf8.decode?_encode text⟩

/-- A report shows what its payload hands over. -/
theorem shows_report {payload : Payload} {base runtime : String} {arguments : List String}
    {exitCode : Int32} (h : payload.Hands base runtime arguments exitCode)
    (environment : Variables) :
    Shows (report payload environment) base runtime arguments
      (environment.get consoleVariable) where
  base := by
    rw [report_eq, reportFields, h.base]
    rfl
  runtime := by
    rw [report_eq, reportFields, h.runtime]
    rfl
  arguments := by
    rw [report_eq, reportFields, h.arguments]
    rfl
  marked := by
    intro text
    rw [← bind_decode?_eq_some_iff, report_eq]
    show Json.ofOption ((environment.get consoleVariable).bind Utf8.decode?) = .string text ↔ _
    cases (environment.get consoleVariable).bind Utf8.decode? <;> simp [Json.ofOption]
  unmarked := by
    simp only [ne_eq, ← bind_decode?_eq_some_iff]
    rw [report_eq]
    show Json.ofOption ((environment.get consoleVariable).bind Utf8.decode?) = .null ↔ _
    cases (environment.get consoleVariable).bind Utf8.decode? <;> simp [Json.ofOption]

/-! ## The report as a line -/

/-- The line of a report, without the line feed at its end. -/
def reportText (payload : Payload) (environment : Variables) : String :=
  reportMark ++ (report payload environment).render

theorem toList_reportText (payload : Payload) (environment : Variables) :
    (reportText payload environment).toList =
      reportMark.toList ++ Json.print (report payload environment) := by
  rw [reportText, String.toList_append, Json.render, String.toList_ofList]

/-- No control character stands in the line of a report. -/
theorem visible_reportText (payload : Payload) (environment : Variables) :
    Json.Visible (reportText payload environment).toList := by
  rw [toList_reportText]
  exact Json.visible_append.2
    ⟨by decide +kernel, Json.visible_print (readable_report payload environment)⟩

/-- The line of a report is found behind complete lines without the mark, and read as the report. -/
theorem readReport_reportText (payload : Payload) (environment : Variables) {before : List String}
    (after : String)
    (hbefore : ∀ earlier ∈ before,
      '\n' ∉ earlier.toList ∧ ¬ reportMark.toList <+: earlier.toList) :
    readReport (String.join (before.map (· ++ "\n")) ++ (reportText payload environment ++ "\n")
      ++ after) = .ok (report payload environment) := by
  have hvisible := visible_reportText payload environment
  have hline : '\n' ∉ (reportText payload environment).toList := fun hmem =>
    absurd (hvisible _ hmem) (by decide)
  have hreturn : '\r' ∉ (reportText payload environment).toList := fun hmem =>
    absurd (hvisible _ hmem) (by decide)
  have hmark : Lines.after? reportMark.toList (reportText payload environment).toList =
      some (Json.print (report payload environment)) :=
    Lines.after?_eq_some_iff.2 (toList_reportText payload environment)
  rw [readReport, Lines.firstAfter?_line after hbefore hline,
    Lines.withoutReturn_of_not_mem hreturn, hmark]
  simp only [Option.some_or, Json.parse_print (readable_report payload environment)]

/-- What the demo host complains of when it follows the arguments of a payload. -/
def complaint? (payload : Payload) : Option String :=
  (DemoHost.follow payload.exitCode payload.arguments).complaint?.map (· ++ "\n")

/-- The demo host prints its report before anything else, and nothing else. -/
theorem outputs_callApplicationMain (payload : Payload) (environment : Variables) :
    (callApplicationMain payload environment).outputs =
      .printed (reportText payload environment ++ "\n") ::
        (complaint? payload).toList.map .complained := by
  rw [callApplicationMain, complaint?]
  cases (DemoHost.follow payload.exitCode payload.arguments).complaint? <;> rfl

/-! ## The main statement -/

/-- **A report cannot be forged.** The demo host first prints one line. Printed behind complete lines
without the mark, and whatever follows it, this line is read as a report that shows what the payload
carries and how the console launch is marked. -/
theorem report_cannot_be_forged {payload : Payload} {base runtime : String}
    {arguments : List String} (hcarries : payload.Carries base runtime arguments)
    (hnul : ∀ text ∈ arguments ++ [base, runtime], '\x00' ∉ text.toList)
    (environment : Variables) :
    ∃ (line : String) (complaints : List String),
      (callApplicationMain payload environment).outputs =
          .printed (line ++ "\n") :: complaints.map .complained ∧
        '\n' ∉ line.toList ∧
        ∀ (before : List String) (after : String),
          (∀ earlier ∈ before, '\n' ∉ earlier.toList ∧ ¬ "REPORT:".toList <+: earlier.toList) →
          ∃ report,
            readReport (String.join (before.map (· ++ "\n")) ++ (line ++ "\n") ++ after) =
              .ok report ∧
            Shows report base runtime arguments (environment.get consoleVariable) := by
  have hvisible := visible_reportText payload environment
  refine ⟨reportText payload environment, (complaint? payload).toList, ?_, ?_, ?_⟩
  · exact outputs_callApplicationMain payload environment
  · exact fun hmem => absurd (hvisible _ hmem) (by decide)
  · intro before after hbefore
    exact ⟨_, readReport_reportText payload environment after hbefore,
      shows_report (hcarries.hands hnul) environment⟩

/-- An argument that looks like a report, with an end of a line of either kind before it, is told as
it is; so is one that is nothing but a backslash and a quote. -/
theorem report_cannot_be_forged_lookalike :
    let arguments := ["a\r\nREPORT:\x7b\"args\":[]\x7d\n", "\\\"", "\x01"]
    let payload := Payload.ofTexts "/srv/é" "/opt/" arguments
    payload.Carries "/srv/é" "/opt/" arguments ∧
      ∃ (line : String) (complaints : List String),
        (callApplicationMain payload .empty).outputs =
          .printed (line ++ "\n") :: complaints.map .complained ∧
        ∃ report, readReport ("no REPORT:\r\n" ++ (line ++ "\n") ++ "REPORT:[]\n") = .ok report ∧
          Shows report "/srv/é" "/opt/" arguments none := by
  intro arguments payload
  have hcarries : payload.Carries "/srv/é" "/opt/" arguments :=
    Payload.carries_ofTexts _ _ (by decide)
  obtain ⟨line, complaints, houtputs, _, hread⟩ :=
    report_cannot_be_forged hcarries (by decide +kernel) .empty
  have hbefore : String.join (["no REPORT:\r"].map (· ++ "\n")) = "no REPORT:\r\n" := by
    decide +kernel
  have hfound := hread ["no REPORT:\r"] "REPORT:[]\n" (by decide +kernel)
  rw [hbefore] at hfound
  exact ⟨hcarries, line, complaints, houtputs, hfound⟩

end Bootstrapper.Suite
