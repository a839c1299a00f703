import NodeConsole.Logging.Directive
import NodeConsole.Logging.Record
/-!
Filters of records. Of the directives that fit a record the most specific one decides: the one with
the longest target, then the one with the most fields. Inside of a span that a directive names,
its threshold is enough.
-/

namespace NodeConsole.Logging

structure Filter where
  directives : List Directive
deriving DecidableEq, Repr

structure Scope where
  spans : List Span := []
  thresholds : List Threshold := []
deriving DecidableEq, Repr

namespace Filter

/-! ## Reading -/

def partsFrom (part : List Char) : List Char → List (List Char)
  | [] => [part]
  | c :: rest => if c = ',' then part :: partsFrom [] rest else partsFrom (part ++ [c]) rest

def parts (text : String) : List String :=
  ((partsFrom [] text.toList).filter (· ≠ [])).map String.ofList

def parse (text : String) : Except Directive.Error Filter := do
  .ok ⟨← (parts text).mapM Directive.parse⟩

def errorsOnly : Filter :=
  ⟨[{ threshold := .upTo .error }]⟩

def parseLenient (text : String) : Filter × List (String × Directive.Error) :=
  let readings := (parts text).map fun part => (part, Directive.parse part)
  let directives := readings.filterMap fun reading => reading.2.toOption
  (if directives.isEmpty then errorsOnly else ⟨directives⟩,
    readings.filterMap fun reading =>
      match reading.2 with
      | .ok _ => none
      | .error error => some (reading.1, error))

/-! ## Judging -/

def coversTarget (directive : Directive) (target : String) : Bool :=
  match directive.target with
  | none => true
  | some start => start.toList.isPrefixOf target.toList

def specificity (directive : Directive) : Option Nat × Nat :=
  (directive.target.map String.utf8ByteSize, directive.fields.length)

/-- Whether one directive is less specific than another. Of directives with fields of other names,
the names decide. -/
def isLess (a b : Directive) : Bool :=
  let width (directive : Directive) := match (specificity directive).1 with
    | none => 0
    | some n => n + 1
  if width a ≠ width b then width a < width b
  else if a.fields.length ≠ b.fields.length then a.fields.length < b.fields.length
  else a.fields.map (·.name) < b.fields.map (·.name)

/-- The directive that decides: no other is more specific, and it stands behind its equals. -/
def mostSpecific? (directives : List Directive) : Option Directive :=
  directives.foldl
    (fun best directive =>
      match best with
      | none => some directive
      | some best => some (if isLess directive best then best else directive))
    none

def keeps (filter : Filter) (severity : Severity) (target : String)
    (details : Option (List String)) : Bool :=
  let fits (directive : Directive) : Bool :=
    directive.isAboutRecords && coversTarget directive target &&
      match details with
      | none => true
      | some names => directive.fields.all fun field => names.contains field.name
  match mostSpecific? (filter.directives.filter fits) with
  | none => false
  | some directive => directive.threshold.admits severity

def rank (filter : Filter) : Nat :=
  (filter.directives.map fun directive =>
    if directive.fields.any fun field => field.value.isSome then 5
    else directive.threshold.rank).foldl max 0

/-- The threshold that a filter brings into a span, if it names the span. Spans have no fields, so
that a directive that asks for some is about another span. -/
def spanThreshold? (filter : Filter) (span : Span) : Option Threshold :=
  let named := filter.directives.filter fun directive =>
    directive.isAboutSpans && directive.fields.isEmpty && coversTarget directive span.target &&
      directive.span.all (· = span.name)
  match named with
  | [] => none
  | directive :: rest =>
    some (rest.foldl
      (fun best directive =>
        if best.rank < directive.threshold.rank then directive.threshold else best)
      directive.threshold)

def enter (filter : Filter) (scope : Scope) (span : Span) : Scope :=
  if filter.rank < span.severity.rank then scope
  else
    match filter.spanThreshold? span with
    | some threshold => ⟨scope.spans ++ [span], scope.thresholds ++ [threshold]⟩
    | none =>
      if scope.thresholds.any (·.admits span.severity) ||
          filter.keeps span.severity span.target none then
        ⟨scope.spans ++ [span], scope.thresholds⟩
      else scope

def admit? (filter : Filter) (record : Record) : Option Record :=
  let scope := record.spans.foldl filter.enter {}
  if scope.thresholds.any (·.admits record.severity) ||
      filter.keeps record.severity record.target
        (some ("message" :: record.details.map (·.1))) then
    some { record with spans := scope.spans }
  else none

def admits (filter : Filter) (severity : Severity) (target : String) : Bool :=
  (filter.admit? { severity, target, message := "" }).isSome

example : let filter := (parseLenient "warn,app=debug,app::db=off").1
    filter.admits .debug "app::web" = true ∧ filter.admits .error "app::db" = false ∧
      filter.admits .info "other" = false := by decide +kernel

end Filter

end NodeConsole.Logging
