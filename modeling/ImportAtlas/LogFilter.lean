import ImportAtlas.Scan.Event
import ImportAtlas.Text.Numeral
import ImportAtlas.Unicode.Property

/-!
# Log filters

Which events the log shows. A filter is a list of directives, each of which sets a level: for
everything, for the events of a target, or for those within a span or with certain fields.

## Main definitions

* `ImportAtlas.LogDirective`: a directive.
* `ImportAtlas.LogDirective.parse?`: the directive of a text.
* `ImportAtlas.LogFilter.parse?`: the filter of a text with commas between the directives.
* `ImportAtlas.LogFilter.choose`: the filter that the options and the environment ask for.
* `ImportAtlas.LogFilter.shows`: whether a filter lets an event through.
* `ImportAtlas.LogFilter.pieces`: the text of a filter, cut at its commas.
-/

namespace ImportAtlas

/-! ### Levels -/

/-- How detailed the log is. -/
inductive LogLevel where
  /-- Nothing. -/
  | off
  /-- Failures. -/
  | error
  /-- Also failures that the program works around. -/
  | warn
  /-- Also steps. -/
  | info
  /-- Also details. -/
  | debug
  /-- Everything. -/
  | trace
  deriving Repr, DecidableEq

namespace LogLevel

/-- All levels, each at the place of its number. -/
def all : List LogLevel := [off, error, warn, info, debug, trace]

/-- The name of a level. -/
def name : LogLevel → String
  | off => "off"
  | error => "error"
  | warn => "warn"
  | info => "info"
  | debug => "debug"
  | trace => "trace"

/-- The level of a number or of a name in letters of either case. -/
def ofText? (text : List Char) : Option LogLevel :=
  match Numeral.unsigned? text with
  | some n => all[n]?
  | none => all.find? fun level => level.name.toList == text.map Unicode.lowerAscii

/-- The place of a level among all levels. -/
def rank (level : LogLevel) : Nat := all.idxOf level

end LogLevel

/-- The level at which events of a severity are shown. -/
def Severity.level : Severity → LogLevel
  | .debug => .debug
  | .info => .info
  | .warn => .warn
  | .error => .error

/-! ### Directives -/

/-- A condition on a field of an event: its name, and its value if that matters. -/
structure FieldCondition where
  /-- The name of the field. -/
  name : String
  /-- What its value must look like. -/
  value : Option String
  deriving Repr, DecidableEq

/-- A directive of a filter. -/
structure LogDirective where
  /-- The target that it is for; every target if there is none. -/
  target : Option String := none
  /-- The span that it is for. -/
  span : Option String := none
  /-- The fields that it is for. -/
  fields : List FieldCondition := []
  /-- The level that it sets. -/
  level : LogLevel
  deriving Repr, DecidableEq

/-- The text of a condition. -/
def FieldCondition.text (c : FieldCondition) : String :=
  match c.value with
  | some v => c.name ++ "=" ++ v
  | none => c.name

/-- The condition of a text. What follows a second equals sign does not count. -/
def FieldCondition.ofText (text : List Char) : FieldCondition :=
  let name := text.takeWhile (· ≠ '=')
  match text.drop name.length with
  | [] => ⟨String.ofList name, none⟩
  | _ :: value => ⟨String.ofList name, some (String.ofList (value.takeWhile (· ≠ '=')))⟩

/-- A text cut at its commas. -/
def commaPieces (text : List Char) : List (List Char) :=
  text.splitOnP (· == ',')

namespace LogDirective

/-- Whether the directive depends on what surrounds an event. -/
def isDynamic (d : LogDirective) : Bool := d.span.isSome || !d.fields.isEmpty

/-- Whether the directive can be decided from the kind of an event alone. -/
def isStatic (d : LogDirective) : Bool := d.span.isNone && d.fields.all fun f => f.value.isNone

/-- The text of a directive. -/
def text (d : LogDirective) : String :=
  let conditions := if d.fields.isEmpty then ""
    else "\x7b" ++ ",".intercalate (d.fields.map (·.text)) ++ "\x7d"
  let scope := d.target.getD "" ++
    if d.isDynamic then "[" ++ d.span.getD "" ++ conditions ++ "]" else ""
  if d.target.isSome || d.isDynamic then scope ++ "=" ++ d.level.name else d.level.name

/-- Whether two directives are for the same events, so that the later one takes effect. -/
def sameScope (d e : LogDirective) : Bool :=
  d.target == e.target && d.span == e.span && d.fields == e.fields

/-- The level after a scope: nothing at all stands for every level. -/
def scopeLevel? : List Char → Option LogLevel
  | [] => some .trace
  | ['='] => some .trace
  | '=' :: text => LogLevel.ofText? text
  | _ => none

/-- Whether a text may start with this character: a letter, a digit, or one of three marks. -/
def startsScope (c : Char) : Bool :=
  c == '-' || c == ':' || c == '_' || Unicode.isAlphanumeric c

/-- The directive of a text after the bracket that opens a span. -/
def parseSpan? (target : Option String) (text : List Char) : Option LogDirective :=
  let name := text.takeWhile fun c => c != ']' && c != '\x7b'
  match text.drop name.length with
  | ']' :: rest =>
    (scopeLevel? rest).map fun level => ⟨target, some (String.ofList name), [], level⟩
  | '\x7b' :: rest =>
    let inside := rest.takeWhile (· ≠ '\x7d')
    let fields := commaPieces inside
    match rest.drop inside.length with
    | '\x7d' :: ']' :: after =>
      if fields.any (·.isEmpty) then none
      else
        let span := if name = [] then none else some (String.ofList name)
        (scopeLevel? after).map fun level => ⟨target, span, fields.map .ofText, level⟩
    | _ => none
  | _ => none

/-- The directive of a text: a level, or a scope with or without a level. -/
def parse? (text : List Char) : Option LogDirective :=
  match text with
  | [] => none
  | '[' :: rest => parseSpan? none rest
  | c :: _ =>
    if startsScope c then
      let name := text.takeWhile fun c => c != '=' && c != '['
      match text.drop name.length with
      | '[' :: rest => parseSpan? (some (String.ofList name)) rest
      | [] =>
        match LogLevel.ofText? name with
        | some level => some { level }
        | none => some { target := some (String.ofList name), level := .trace }
      | rest => (scopeLevel? rest).map fun level => { target := some (String.ofList name), level }
    else none

end LogDirective

/-! ### Filters -/

/-- A filter: its directives. -/
structure LogFilter where
  /-- The directives, in the order given. -/
  directives : List LogDirective
  deriving Repr, DecidableEq

namespace LogFilter

/-- The directives without those that a later one for the same events replaces. -/
def effective : List LogDirective → List LogDirective
  | [] => []
  | d :: rest => if rest.any d.sameScope then effective rest else d :: effective rest

/-- The filter of a text. Empty pieces do not count, and without any directive failures alone are
shown. -/
def parse? (text : List Char) : Option LogFilter :=
  match ((commaPieces text).filter (· ≠ [])).mapM LogDirective.parse? with
  | none => none
  | some [] => some ⟨[{ level := .error }]⟩
  | some directives => some ⟨directives⟩

/-- The name under which the program's own events are logged. -/
def ownTarget : String := "swift_module_graph"

/-- The filter with a level for the program's own events and another for the rest. -/
def ofLevels (rest own : LogLevel) : LogFilter :=
  ⟨[{ level := rest }, { target := some ownTarget, level := own }]⟩

/-- The filter that the options and the environment ask for. How often more detail is asked for
comes first, then whether silence is, and then what the environment says, if that can be read. -/
def choose (verbosity : Nat) (quiet : Bool) (environment : Option String) : LogFilter :=
  match verbosity, quiet with
  | 0, true => ⟨[{ level := .error }]⟩
  | 0, false => (environment.bind fun text => parse? text.toList).getD (ofLevels .warn .info)
  | 1, _ => ofLevels .warn .debug
  | _, _ => ofLevels .info .trace

/-- Whether an event of the program's own is shown that has a level and is in no span. Of the
directives for it, the one with the longest target counts. -/
def shows (filter : LogFilter) (level : LogLevel) : Bool :=
  let own := filter.directives.filter fun d =>
    !d.isDynamic && (d.target.getD "").toList.isPrefixOf ownTarget.toList
  let longest := own.foldl (fun n d => max n (d.target.getD "").length) 0
  match (own.filter fun d => (d.target.getD "").length == longest).getLast? with
  | some d => level.rank ≤ d.level.rank
  | none => false

/-- The text of a filter, cut at its commas. A directive about fields alone is listed twice, as it
is applied both to the kinds of events and to what surrounds them. -/
def pieces (filter : LogFilter) : List String :=
  let fixed := filter.directives.filter fun d => !d.isDynamic
  let dynamic := filter.directives.filter (·.isDynamic)
  let listed := effective (fixed ++ dynamic.filter (·.isStatic)) ++ effective dynamic
  (listed.flatMap fun d => commaPieces d.text.toList).map String.ofList

end LogFilter

end ImportAtlas
