import SpecScribe.Chunk.Splitting
import SpecScribe.Datum.Describe
import SpecScribe.Fault
import SpecScribe.Outline.Lookup
import SpecScribe.Text.Search

/-!
Scenarios: pieces of work of a chosen size whose results can be compared from run to run. The
sources and services they share are here.
-/

namespace SpecScribe.Bench

open Workspace

/-- Work of a given size, and what it gives. -/
abbrev Scenario := Nat → Except Fault Datum

namespace Scenario

/-- The texts of a number of items, each written with its number. -/
def numberedTexts (stem : String) (n : Nat) : List String :=
  (List.range n).map fun i => stem ++ toString i

def file (ls : List String) : String := String.join (ls.map (· ++ "\n"))

def storeOf (files : List (String × String)) : Store where
  root := files.foldl
    (fun e (name, text) => e.put [name] (.file { bytes := text.toUTF8.toList })) (.dir [])

def sample : Language → String
  | .python => file
    ["import os", "", "class Widget:", "    \"\"\"A widget.\"\"\"",
     "    def __init__(self, name: str):", "        self.name = name", "    def area(self):",
     "        return 1", "    def scale(self, factor):", "        return factor", "",
     "def helper(x, y):", "    return y", "", "def other(a):", "    return a"]
  | .javascript => file
    ["import \x7b thing \x7d from 'pkg';", "class Gadget \x7b", "  constructor(name) \x7b",
     "    this.name = name;", "  \x7d", "  spin(speed, ...extras) \x7b", "    return speed;",
     "  \x7d", "\x7d", "function run(job, count) \x7b", "  return job;", "\x7d",
     "const arrow = (p, q) => p + q;"]
  | .typescript => file
    ["class Gizmo \x7b", "  turn(angle: number, force?: number) \x7b", "    return angle;",
     "  \x7d", "  stop() \x7b", "    return 0;", "  \x7d", "\x7d",
     "function build(id: string, opt?: boolean) \x7b", "  return id;", "\x7d",
     "const bent = (x: number) => x * 2;"]
  | .java => file
    ["/** An engine. */", "public class Engine \x7b", "    /** Starts it. */",
     "    public int start(int rpm) \x7b", "        return rpm;", "    \x7d", "",
     "    public void stop(String why) \x7b", "        return;", "    \x7d", "\x7d"]
  | .cpp => file
    ["class Robot \x7b", "public:", "    int walk(int steps) \x7b", "        return steps;",
     "    \x7d", "    void talk(int vol) \x7b", "    \x7d", "\x7d;", "struct Point \x7b", "    int x;", "\x7d;",
     "int standalone(int a, int b) \x7b", "    return a + b;", "\x7d"]

def times (n : Nat) (s : String) : String := String.join (List.replicate n s)

def names (es : List Element) : List String := es.map (·.name)

def splitters : Chunk.Splitters where
  plain s := .ok ((Chunk.windows 4000 200 s.toList).map fun w => .text (String.ofList w))
  semantic := some fun s => .ok [.text s]

def start (n : Nat) (s : String) : String := String.ofList (s.toList.take n)

end Scenario

end SpecScribe.Bench
