import SchemaTyping.Query.Grammar

/-!
# Filters made of filters

The named filters that are written as filters themselves. What they lead to can be updated where their
definitions say so: an update of `select` is one of the input, and an update with nothing removes.
-/

namespace SchemaTyping.Query

/-- The definitions, each as it would be written in a filter. -/
def preludeText : List String :=
  [ "def null: [][0];",
    "def true: 0 == 0;",
    "def false: 0 != 0;",
    "def not: if . then false else true end;",
    "def empty: \x7b\x7d[] as $x | .;",
    "def error(f): reduce (f | error) as $x (.; .);",
    "def nan: 0 / 0;",
    "def infinite: 1 / 0;",
    "def isboolean: type == \"boolean\";",
    "def isnumber: type == \"number\";",
    "def isstring: type == \"string\";",
    "def isarray: type == \"array\";",
    "def isobject: type == \"object\";",
    "def select(f): if f then . else empty end;",
    "def nulls: select(. == null);",
    "def values: select(. != null);",
    "def booleans: select(isboolean);",
    "def numbers: select(isnumber);",
    "def strings: select(isstring);",
    "def arrays: select(isarray);",
    "def objects: select(isobject);",
    "def scalars: select(isarray or isobject | not);",
    "def iterables: select(isarray or isobject);",
    "def recurse(f): def rec: ., (f | rec); rec;",
    "def recurse: recurse(.[]?);",
    "def recurse(f; test): recurse(f | select(test));",
    "def until(test; f): def rec: if test then . else f | rec end; rec;",
    "def while(test; f): def rec: if test then ., (f | rec) else empty end; rec;",
    "def isempty(f): label $end | (f | false, break $end), true;",
    "def first(f): label $end | f | ., break $end;",
    "def last(f): reduce f as $x ([]; [$x]) | .[];",
    "def limit($n; f): if 0 < $n then label $end | foreach f as $x (0; . + 1; $x, " ++
      "if . < $n then empty else break $end end) else empty end;",
    "def map(f): [.[] | f];",
    "def map_values(f): .[] |= f;",
    "def del(f): f |= empty;",
    "def first: .[0];",
    "def last: .[-1];",
    "def range(stop): range(0; stop; 1);",
    "def range(start; stop): range(start; stop; 1);",
    "def keys: keys_unsorted | sort;",
    "def add(f): reduce f as $x (null; . + $x);",
    "def add: add(.[]);",
    "def any(source; f): isempty(first(source | f or empty)) | not;",
    "def any(f): any(.[]; f);",
    "def any: any(.);",
    "def all(source; f): isempty(first(source | f and empty));",
    "def all(f): all(.[]; f);",
    "def all: all(.);",
    "def to_entries: [keys_unsorted[] as $k | \x7bkey: $k, value: .[$k]\x7d];",
    "def from_entries: reduce .[] as $x (\x7b\x7d; . + \x7b($x.key): $x.value\x7d);",
    "def with_entries(f): to_entries | map(f) | from_entries;",
    "def tostring: if isstring then . else tojson end;",
    "def join($s): .[] |= tostring | .[:-1][] += $s | add // \"\";",
    "def split($s): if isstring and ($s | isstring) then . / $s else " ++
      "error(\"split input and separator must be strings\") end;"]

def Definition.parse? (text : String) : Option Definition := do
  match ← Filter.parse? (text ++ " .") with
  | .define name parameters body _ => some ⟨name, parameters, body⟩
  | _ => none

def preludeDefinitions : List Definition :=
  preludeText.filterMap Definition.parse?

def definition? (name : String) (arity : Nat) : Option Definition :=
  preludeDefinitions.find? fun definition => definition.name = name ∧ definition.parameters.length = arity

end SchemaTyping.Query
