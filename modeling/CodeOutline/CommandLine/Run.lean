/-
Answering a command line.

Every file is a job: first those that hold syntax trees, then those that hold source texts.  A job
reads its file, and then its text is examined.  A report is written only if all jobs succeed;
otherwise each failure is logged, in the order of the jobs, and nothing is written.

A run takes place in a system of any kind, and what it does to the state of the system is a part of
its result.
-/
import CodeOutline.Analysis
import CodeOutline.CommandLine.Help
import CodeOutline.CommandLine.Log
import CodeOutline.Config
import CodeOutline.System

namespace CodeOutline.CommandLine

/-- A file to outline. -/
inductive Job where
  | tree (path : String)
  | source (path : String)
deriving DecidableEq, Repr

/-- The file of a job. -/
def Job.path : Job → String
  | .tree p => p
  | .source p => p

/-- Why a job failed. -/
inductive JobError where
  | unreadable (path : String) (cause : SystemError)
  | noOutline (path : String) (cause : AnalysisError CheckerError)

/-- The words for the cause, outermost first. -/
def JobError.messages : JobError → List String
  | .unreadable path cause => ["Cannot read input file " ++ path, cause.message]
  | .noOutline path cause => ("Failed to outline " ++ path) :: cause.messages CheckerError.messages

/-- The log entry for a failed job. -/
def JobError.logEntry (e : JobError) : String := logText (": ".intercalate e.messages)

/-- Why a run failed. -/
inductive Failure where
  | configUnreadable (path : String)
  | configInvalid (path : String)
  | nothingToDo
  | jobsFailed (failed total : Nat)
  | outputRefused (path : String)
  | outputIncomplete (cause : SystemError)
deriving DecidableEq, Repr

def Failure.message : Failure → String
  | .configUnreadable path => "Cannot read config file " ++ path
  | .configInvalid path => "Invalid config file " ++ path
  | .nothingToDo => "Please provide at least one --input <ast.json> or --source <file.js>"
  | .jobsFailed failed total =>
    toString failed ++ " of " ++ toString total ++ " file(s) could not be outlined"
  | .outputRefused path => "Cannot create output file " ++ path
  | .outputIncomplete cause => cause.message

/-- What becomes of the file for the report. -/
inductive Target where
  /-- The file is not opened. -/
  | untouched
  /-- The file is created or emptied, but does not take the whole text. -/
  | incomplete (path : String)
  /-- The file is created or emptied, and takes the text. -/
  | written (path text : String)
deriving DecidableEq, Repr

/-- What a run does. -/
structure Outcome where
  /-- The exit code. -/
  exitCode : Nat := 0
  /-- What is written to the standard output. -/
  stdout : String := ""
  /-- The failures of jobs, in order. -/
  logged : List JobError := []
  /-- Why the run failed, if it did. -/
  failure : Option Failure := none
  target : Target := .untouched

namespace Outcome

/-- The outcome of a run that failed. -/
def failed (f : Failure) (logged : List JobError) : Outcome :=
  { exitCode := 1, logged, failure := some f }

/-- The outcome of arguments that are no request. -/
def interrupted : Interruption → Outcome
  | .usage => { exitCode := 2 }
  | .help => { stdout := helpText }
  | .version => { stdout := "flow_outline 0.1.0\n" }

end Outcome

namespace Request

/-- The jobs of a request. -/
def jobs (r : Request) : List Job := r.inputs.map .tree ++ r.sources.map .source

/-- The options of a request, given those of its configuration. -/
def adjust (r : Request) (o : Options) : Options :=
  let o := if r.allKeywords then { o with visibility := Visibility.all } else o
  let o := r.keywords.foldl (fun o k => { o with visibility := o.visibility.set k true }) o
  let o := if r.noArgs then { o with showArgs := false } else o
  match r.maxDepth with
  | some d => { o with maxDepth := d }
  | none => o

/-- The options in the configuration of a request, given what can be read. -/
def configured (r : Request) (read : String → Except SystemError String) : Except Failure Options :=
  match r.config with
  | none => .ok Options.default
  | some path =>
    match read path with
    | .error _ => .error (.configUnreadable path)
    | .ok text =>
      match Options.ofConfig? text with
      | some o => .ok o
      | none => .error (.configInvalid path)

/-- The options of a request, given what can be read. -/
def options (r : Request) (read : String → Except SystemError String) : Except Failure Options :=
  (r.configured read).map r.adjust

/-- The format of the report of a request. -/
def reportFormat (r : Request) : ReportFormat :=
  match r.style with
  | some .text => .text
  | _ => .json (if r.pretty then .pretty else .compact)

/-- The checker of a request. -/
def checkerOf (r : Request) : Checker :=
  match r.checker with
  | some program => { program }
  | none => {}

end Request

section System

variable {σ : Type} (sys : System σ)

/-- Reads the file of a job. -/
def Job.load (job : Job) (s : σ) : Except JobError String :=
  (sys.read s job.path).mapError (.unreadable job.path)

namespace Request

variable (r : Request)

/-- The outline of the text of a job.  For a source text the checker is asked. -/
def analyse (o : Options) (job : Job) (text : String) (s : σ) :
    Except (AnalysisError CheckerError) Outline × σ :=
  match job with
  | .tree _ => ((analyseTree o text).value, s)
  | .source _ =>
    let ask args input := r.checkerOf.consult sys s args input
    ((analyseSource o (fun args input => (ask args input).1) text).value,
      (ask checkerCommand text).2)

/-- The result of a job, from the text of its file. -/
def examine (o : Options) (job : Job) (text : String) (s : σ) : Except JobError FileOutline × σ :=
  let analysed := r.analyse sys o job text s
  ((analysed.1.map (FileOutline.mk job.path)).mapError (.noOutline job.path), analysed.2)

/-- The result of a job. -/
def runJob (o : Options) (job : Job) (s : σ) : Except JobError FileOutline × σ :=
  match job.load sys s with
  | .error e => (.error e, s)
  | .ok text => r.examine sys o job text s

/-- The results of jobs that run one after the other. -/
def runJobs (o : Options) : List Job → σ → List (Except JobError FileOutline) × σ
  | [], s => ([], s)
  | job :: jobs, s =>
    let first := r.runJob sys o job s
    let rest := runJobs o jobs first.2
    (first.1 :: rest.1, rest.2)

/-- Writes a report where a request wants it. -/
def deliver (report : String) (s : σ) : Outcome × σ :=
  match r.output with
  | none => ({ stdout := report }, s)
  | some path =>
    match sys.create s path with
    | .error _ => (.failed (.outputRefused path) [], s)
    | .ok s =>
      match sys.write s path report with
      | (none, s) => ({ target := .written path report }, s)
      | (some cause, s) =>
        ({ Outcome.failed (.outputIncomplete cause) [] with target := .incomplete path }, s)

/-- The failures among results, in order. -/
def failures {ε α : Type} (results : List (Except ε α)) : List ε :=
  results.filterMap fun
    | .error e => some e
    | .ok _ => none

/-- The successes among results, in order. -/
def successes {ε α : Type} (results : List (Except ε α)) : List α :=
  results.filterMap fun
    | .error _ => none
    | .ok a => some a

/-- The end of a run, from the results of the jobs. -/
def conclude (results : List (Except JobError FileOutline)) (s : σ) : Outcome × σ :=
  match failures results with
  | [] => r.deliver sys (Report.render r.reportFormat (successes results)) s
  | errors => (.failed (.jobsFailed errors.length results.length) errors, s)

/-- Answers a request. -/
def execute (s : σ) : Outcome × σ :=
  match r.options (sys.read s) with
  | .error f => (.failed f [], s)
  | .ok o =>
    if r.jobs.isEmpty then (.failed .nothingToDo [], s)
    else
      let done := r.runJobs sys o r.jobs s
      r.conclude sys done.1 done.2

end Request

/-- Answers arguments. -/
def execute (args : List String) (s : σ) : Outcome × σ :=
  match Request.ofArguments args with
  | .error i => (.interrupted i, s)
  | .ok r => r.execute sys s

end System

/-- A system in a state. -/
structure Surroundings where
  {State : Type}
  system : System State
  state : State

/-- The outcome of arguments. -/
def run (args : List String) (w : Surroundings) : Outcome := (execute w.system args w.state).1

end CodeOutline.CommandLine
