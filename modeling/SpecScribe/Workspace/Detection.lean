import SpecScribe.Language
import SpecScribe.Text.Case
import SpecScribe.Workspace.Store

/-!
Which language a file is written in: by the end of its name, else by what its first bytes say.
-/

namespace SpecScribe.Workspace

def extensions : List (String × Language) :=
  [(".py", .python), (".pyw", .python), (".pyi", .python),
   (".js", .javascript), (".jsx", .javascript), (".mjs", .javascript), (".cjs", .javascript),
   (".ts", .typescript), (".tsx", .typescript), (".mts", .typescript), (".cts", .typescript),
   (".java", .java), (".jav", .java),
   (".cpp", .cpp), (".cxx", .cpp), (".cc", .cpp), (".hpp", .cpp), (".hxx", .cpp), (".hh", .cpp)]

/-- Texts near the start of a file that tell its language, in the order in which they are
tried. -/
def contentMarks : List (Language × List String) :=
  [(.python,
    ["#!/usr/bin/env python", "#!/usr/bin/python", "# -*- coding: utf-8 -*-",
     "from __future__ import"]),
   (.javascript, ["#!/usr/bin/env node", "\"use strict\";", "'use strict';"]),
   (.typescript, ["interface ", "type ", "declare "])]

def hasInfix (part : List UInt8) : List UInt8 → Bool
  | [] => part.isEmpty
  | b :: r => part.isPrefixOf (b :: r) || hasInfix part r

def sampleSize : Nat := 1024

def detectFromContent (c : Content) : Option Language :=
  let sample := c.take sampleSize
  contentMarks.findSome? fun (l, marks) =>
    if marks.any fun m => hasInfix (Text.encodeUtf8 m.toList) sample then some l else none

def Store.language? (s : Store) (p : Path) : Option Language :=
  match extensions.lookup (String.ofList (Text.lower p.suffix.toList)) with
  | some l => some l
  | none =>
    if p.name == "Makefile" || p.name == "makefile" then none
    else
      match s.read p with
      | .ok c => detectFromContent c
      | .error _ => none

end SpecScribe.Workspace
