import SiteProbe.Proofs.Interleaving
import SiteProbe.Proofs.Readings
import SiteProbe.Proofs.Targets

/-!
# Scans of targets

The scans of a program are a batch of conversations, one for each target. So each target gets one report, the one that a
scan of it alone would give (`Program.scanAlone`), in the order of the targets, whatever the order in which the scans go
on and however many of them may be under way. A report is written when it is handed over, so what is written is the
beginning of one output at every moment (`Program.Writes`). This output has a record for each target
(`Program.render`), and it is what a run of the program comes to (`Program.scans_interleave`).
-/

namespace SiteProbe

open Relation (ReflTransGen)

/-! ## Reports -/

namespace Report

theorem url_ofResult (url : String) (mode : Mode) (s : Store) (r : Except Error Findings) :
    (ofResult url mode s r).url = url := by
  cases r <;> rfl

/-- The lines for readers begin with the target, and so do the members of the JSON object. -/
theorem names_target (r : Report) : (∃ rest, r.text = r.url ++ "\n" ++ rest) ∧
    ∃ members, r.toJson = .object (("url", .string r.url) :: members) :=
  ⟨⟨_, rfl⟩, ⟨_, rfl⟩⟩

end Report

namespace Program

variable (d : Detector) (mode : Mode)

/-- The report of a target that is scanned alone, with a web that answers messages by their number. -/
def scanAlone (answers : Nat → Url → Message → Except Failure Reply) (url : String) : Report :=
  .ofResult url mode d.store ((d.detectHttp (d.world (Web.numbered answers) fun _ => return ()) url).run 0).1

theorem url_scanAlone (answers : Nat → Url → Message → Except Failure Reply) (url : String) :
    (scanAlone d mode answers url).url = url := Report.url_ofResult url mode d.store _

theorem lead_scan (answers : Nat → Url → Message → Except Failure Reply) (url : String) :
    (((scan d mode url).lead (Web.numbered answers)).run 0).1 = scanAlone d mode answers url := by
  unfold scan
  rw [Conversation.lead_bind, Conversation.lead_detectHttp]
  rfl

theorem finish_dictated_scan (answer : Url → Message → Except Failure Reply)
    (answers : Nat → Url → Message → Except Failure Reply) (url : String) :
    ((scan d mode url).dictated answers 0).finish answer = scanAlone d mode answers url := by
  rw [Conversation.finish_dictated, lead_scan]

theorem finish_scan (answer : Url → Message → Except Failure Reply) (url : String) :
    (scan d mode url).finish answer = scanAlone d mode (fun _ => answer) url := by
  rw [Conversation.finish_eq_lead answer 0, lead_scan]

theorem scanAll_eq (c : CommandLine) (answer : Url → Message → Except Failure Reply) (schedule : List Nat)
    (targets : List String) :
    scanAll d c answer schedule targets = targets.map (scanAlone d c.mode fun _ => answer) := by
  unfold scanAll
  rw [Batch.run_eq]
  exact List.map_congr_left fun url _ => finish_scan d c.mode answer url

/-- What the program writes does not depend on the order in which its scans go on. -/
theorem run_schedule (args : List String) (input : List UInt8) (source : String → Source)
    (answer : Url → Message → Except Failure Reply) (schedule schedule' : List Nat) :
    run args input source answer schedule = run args input source answer schedule' := by
  unfold run
  simp only [scanAll_eq]

/-! ## What is written -/

/-- A record for each report, in their order: its lines for readers, its line of JSON text, or its place in a document
that holds all of them. -/
def render : OutputFormat → List Report → String
  | .text, rs => String.join (rs.map Report.text)
  | .jsonLines, rs => String.join (rs.map fun r => r.jsonLine ++ "\n")
  | .json, rs => Report.jsonDocument rs ++ "\n"

section Written

variable (f : OutputFormat)

theorem written_eq (rs : List Report) : written f rs = String.join (rs.map (emit f)) := by
  rw [written, String.join, List.foldl_map]

theorem written_append (rs more : List Report) : written f (rs ++ more) = written f rs ++ written f more := by
  rw [written_eq, written_eq, written_eq, List.map_append, String.join_append]

/-- Nothing of a document is written before the last report. -/
theorem written_json (rs : List Report) : written .json rs = "" := by
  rw [written_eq]
  induction rs with
  | nil => rfl
  | cons r rest ih => rw [List.map_cons, String.join_cons, ih, emit, String.append_empty]

/-- Written one after the other, reports are written as a whole. -/
theorem output_eq (rs : List Report) : output f rs = render f rs := by
  cases f with
  | text => exact String.append_empty.trans (written_eq .text rs)
  | jsonLines => exact String.append_empty.trans (written_eq .jsonLines rs)
  | json => rw [output, written_json, conclude, String.empty_append, render]

end Written

/-- In whatever order the scans of targets go on, these reports come, and they are written as they come: at every moment
the beginning of one output has been written, and all of it when nothing is left to do. -/
structure Writes (f : OutputFormat) (limit : Nat) (job : String → Conversation Report)
    (answer : Url → Message → Except Failure Reply) (targets : List String) (reports : List Report) : Prop where
  comes : Batch.ComesTo limit job answer targets reports
  begun : ∀ b, ReflTransGen (Batch.Step limit job answer) ⟨targets, [], []⟩ b →
    ∃ rest, render f reports = written f b.results ++ rest
  whole : ∀ b, ReflTransGen (Batch.Step limit job answer) ⟨targets, [], []⟩ b →
    (∀ b', ¬ Batch.Step limit job answer b b') → output f b.results = render f reports

theorem writes_of_comesTo {limit : Nat} {job : String → Conversation Report}
    {answer : Url → Message → Except Failure Reply} {targets : List String} {reports : List Report} (f : OutputFormat)
    (h : Batch.ComesTo limit job answer targets reports) : Writes f limit job answer targets reports where
  comes := h
  begun b hb := by
    obtain ⟨more, hmore⟩ := h.ordered b hb
    rw [← output_eq, output, ← hmore, written_append, String.append_assoc]
    exact ⟨_, rfl⟩
  whole b hb hstuck := by rw [(h.complete b hb).mp hstuck, output_eq]

/-! ## Runs of the program -/

section Run

variable {d} {c : CommandLine} {args : List String} {input : List UInt8} {source : String → Source} {ts : List String}

/-- The targets of a run are collected from lines, those of the command line or of the input. -/
theorem exists_lines_of_targets (h : targets c input = .ok ts) : ∃ lines, ts = Target.collect lines := by
  unfold targets at h
  split at h
  · split at h
    · cases h
    · split at h
      · cases h
      · exact ⟨_, (Except.ok.inj h).symm⟩
  · exact ⟨_, (Except.ok.inj h).symm⟩

/-- A command line that names one of the targets of a run has this target alone. -/
theorem targets_alone (h : targets c input = .ok ts) {url : String} (hurl : url ∈ ts) (input' : List UInt8) :
    targets { c with urls := [url], extraUrls := [] } input' = .ok [url] := by
  obtain ⟨lines, rfl⟩ := exists_lines_of_targets h
  have halone : CommandLine.targets { c with urls := [url], extraUrls := [] } = [url] := Target.collect_singleton hurl
  rw [targets, halone]
  rfl

/-- A run that has targets and a detector writes the reports of its scans, each as if it were the only one. -/
theorem run_eq (hc : CommandLine.ofArgs args = .ok c) (hts : targets c input = .ok ts)
    (hd : Detector.load source c.config = .ok d) (answer : Url → Message → Except Failure Reply)
    (schedule : List Nat) :
    run args input source answer schedule = ⟨0, render c.format (ts.map (scanAlone d c.mode fun _ => answer)), ""⟩ := by
  unfold run
  simp only [hc, hts, hd, scanAll_eq, output_eq]

end Run

/-- Scans do not get in each other's way. Each target that is named gets one report, in the order in which the targets
are first named, and it is the report of a scan of this target alone:

- whatever each scan is answered, message by message, as long as what is answered to the other scans has no influence,
  and in whatever order the scans that are under way go on and come to their end;
- with a web whose answers depend on the message alone, in whatever order the scans go on, and for all schedules and
  limits, so that what is written shows neither the order nor the limit.

The reports are written as they come, in every format. A target that fails gets the report of its error. So a run of the
program writes the record of each of its targets, the one that a run for this target alone writes, whatever the schedule
and the limit are. -/
theorem scans_interleave (c : CommandLine) :
    (∀ lines : List String,
      let targets := Target.collect lines
      let limit := max c.concurrency 1
      (targets = (lines.filterMap Target.ofLine?).eraseDups ∧ targets.Nodup) ∧
      (∀ (answers : String → Nat → Url → Message → Except Failure Reply)
        (answer : Url → Message → Except Failure Reply) (format : OutputFormat),
        Writes format limit (fun url => (scan d c.mode url).dictated (answers url) 0) answer targets
          (targets.map fun url => scanAlone d c.mode (answers url) url)) ∧
      ∀ answer : Url → Message → Except Failure Reply,
        let reports := targets.map (scanAlone d c.mode fun _ => answer)
        (∀ format, Writes format limit (scan d c.mode) answer targets reports) ∧
        ∀ schedule concurrency, scanAll d { c with concurrency } answer schedule targets = reports) ∧
    (∀ (answers : Nat → Url → Message → Except Failure Reply) (url : String),
      let report := scanAlone d c.mode answers url
      (∃ rest, report.text = url ++ "\n" ++ rest) ∧
      (∃ members, report.toJson = .object (("url", .string url) :: members)) ∧
      ∀ e, ((d.detectHttp (d.world (Web.numbered answers) fun _ => return ()) url).run 0).1 = .error e →
        report = ⟨url, [], [], c.mode, some e.message⟩ ∧
        report.text = url ++ "\n" ++ ("  " ++ ("error: " ++ e.message) ++ "\n")) ∧
    ∀ args input source ts, CommandLine.ofArgs args = .ok c → targets c input = .ok ts →
      Detector.load source c.config = .ok d →
      ts.Nodup ∧ ∀ (answer : Url → Message → Except Failure Reply) (schedule : List Nat),
        let alone := scanAlone d c.mode fun _ => answer
        run args input source answer schedule = ⟨0, render c.format (ts.map alone), ""⟩ ∧
        (∀ url ∈ ts, ∀ args' input' schedule',
          CommandLine.ofArgs args' = .ok { c with urls := [url], extraUrls := [] } →
            run args' input' source answer schedule' = ⟨0, render c.format [alone url], ""⟩) ∧
        ∀ concurrency args' schedule', CommandLine.ofArgs args' = .ok { c with concurrency } →
          run args' input source answer schedule' = run args input source answer schedule := by
  have hlimit : 0 < max c.concurrency 1 := Nat.lt_of_lt_of_le Nat.zero_lt_one (Nat.le_max_right _ _)
  refine ⟨fun lines => ⟨⟨Target.collect_eq lines, Target.nodup_collect lines⟩, fun answers answer format => ?_,
    fun answer => ⟨fun format => ?_, fun schedule concurrency => ?_⟩⟩,
    fun answers url => ⟨?_, ?_, fun e he => ?_⟩,
    fun args input source ts hc hts hd => ⟨?_, fun answer schedule => ⟨?_, ?_, ?_⟩⟩⟩
  · have hcomes := Batch.comesTo hlimit (fun url => (scan d c.mode url).dictated (answers url) 0) answer
      (Target.collect lines)
    simp only [finish_dictated_scan] at hcomes
    exact writes_of_comesTo format hcomes
  · have hcomes := Batch.comesTo hlimit (scan d c.mode) answer (Target.collect lines)
    simp only [finish_scan] at hcomes
    exact writes_of_comesTo format hcomes
  · exact scanAll_eq d _ answer schedule _
  · have htext := (scanAlone d c.mode answers url).names_target.1
    rwa [url_scanAlone] at htext
  · have hjson := (scanAlone d c.mode answers url).names_target.2
    rwa [url_scanAlone] at hjson
  · unfold scanAlone
    rw [he]
    exact ⟨rfl, rfl⟩
  · obtain ⟨lines, rfl⟩ := exists_lines_of_targets hts
    exact Target.nodup_collect lines
  · exact run_eq hc hts hd answer schedule
  · intro url hurl args' input' schedule' hc'
    exact run_eq hc' (targets_alone hts hurl input') hd answer schedule'
  · intro concurrency args' schedule' hc'
    exact (run_eq hc' hts hd answer schedule').trans (run_eq hc hts hd answer schedule).symm

/-- A rule for pages that are a blog. -/
def blogRules : Source :=
  let detect := "\x7b\"body\": \x7b\"$eq\": \"blog\"\x7d\x7d"
  let probe := "\x7b\"path\": \"/\", \"detect\": " ++ detect ++ "\x7d"
  .file (.ok (Utf8.encode ("\x7b\"apps\": \x7b\"Blog\": \x7b\"paths\": [" ++ probe ++ "]\x7d\x7d\x7d")))

/-- A web in which every page is a blog. -/
def blogs (_ : Url) (_ : Message) : Except Failure Reply := .ok ⟨200, [], .ok (Utf8.encode "blog")⟩

/-- Arguments with a limit, a target that cannot be scanned, and a target that is named twice. -/
def twoTargets (limit : String) : List String :=
  ["-c", limit, "ftp://a.test", " http://b.test/", "--url=http://b.test/"]

/-- The records of both targets are written in order, with the limit naught and with one above the number of targets.
The failure of the first target shows in its own record only. -/
theorem scans_interleave_twoTargets :
    let run (args : List String) := Program.run args [] (fun _ => blogRules) blogs
    ∃ d, Detector.load (fun _ => blogRules) .standard = .ok d ∧
      let alone := scanAlone d .httpOnly fun _ => blogs
      run (twoTargets "0") [] = ⟨0, (alone "ftp://a.test").text ++ (alone "http://b.test/").text, ""⟩ ∧
      run ["-c", "0", "http://b.test/"] [] = ⟨0, (alone "http://b.test/").text, ""⟩ ∧
      run (twoTargets "8") [1, 1] = run (twoTargets "0") [] ∧
      (run (twoTargets "0") []).output = "ftp://a.test\n" ++
        "  error: Invalid input: unsupported scheme in ftp://a.test\n" ++ "http://b.test/\n" ++ "  Blog\n" := by
  intro run
  let line : CommandLine :=
    { CommandLine.start with
      urls := ["ftp://a.test", " http://b.test/"], extraUrls := ["http://b.test/"], concurrency := 0 }
  have hline : CommandLine.ofArgs (twoTargets "0") = .ok line := by decide +kernel
  have hmore : CommandLine.ofArgs (twoTargets "8") = .ok { line with concurrency := 8 } := by decide +kernel
  have hone : CommandLine.ofArgs ["-c", "0", "http://b.test/"] =
    .ok { line with urls := ["http://b.test/"], extraUrls := [] } := by decide +kernel
  have htargets : targets line [] = .ok ["ftp://a.test", "http://b.test/"] := by decide +kernel
  have hloaded : (Detector.load (fun _ => blogRules) line.config).toOption.isSome := by decide +kernel
  obtain ⟨d, hd⟩ := Option.isSome_iff_exists.mp hloaded
  have hd := eq_ok_of_toOption hd
  obtain ⟨-, -, hruns⟩ := scans_interleave d line
  obtain ⟨-, hruns⟩ := hruns _ [] _ _ hline htargets hd
  obtain ⟨hrun, halone, hlimit⟩ := hruns blogs []
  refine ⟨d, hd, hrun, ?_, hlimit 8 _ [1, 1] hmore, by decide +kernel⟩
  exact halone "http://b.test/" (by decide) _ [] [] hone

end Program
end SiteProbe
