import LineCensus.Grammar

/-!
# The bundled grammars

Line markers and block delimiters of the known languages.  Where a language has several pairs of
delimiters, they are tried in the order given.
-/

namespace LineCensus.Registry.Bundled

def grammars : List Grammar :=
  [⟨"ActionScript", [['/', '/']], [⟨['/', '*'], ['*', '/']⟩]⟩,
   ⟨"Ada", [['-', '-']], [⟨[], []⟩]⟩,
   ⟨"Alda", [['#']], [⟨[], []⟩]⟩,
   ⟨"Ant", [['<', '!', '-', '-']], [⟨['<', '!', '-', '-'], ['-', '-', '>']⟩]⟩,
   ⟨"AsciiDoc", [], [⟨[], []⟩]⟩,
   ⟨"Assembly", [['/', '/'], [';'], ['#'], ['@'], ['|'], ['!']], [⟨['/', '*'], ['*', '/']⟩]⟩,
   ⟨"ATS", [['/', '/']], [⟨['/', '*'], ['*', '/']⟩, ⟨['(', '*'], ['*', ')']⟩]⟩,
   ⟨"AutoHotkey", [[';']], [⟨[], []⟩]⟩,
   ⟨"Awk", [['#']], [⟨[], []⟩]⟩,
   ⟨"Arduino Sketch", [['/', '/']], [⟨['/', '*'], ['*', '/']⟩]⟩,
   ⟨"Batch", [['R', 'E', 'M'], ['r', 'e', 'm']], [⟨[], []⟩]⟩,
   ⟨"BASH", [['#']], [⟨[], []⟩]⟩,
   ⟨"BitBake", [['#']], [⟨[], []⟩]⟩,
   ⟨"C", [['/', '/']], [⟨['/', '*'], ['*', '/']⟩]⟩,
   ⟨"C Header", [['/', '/']], [⟨['/', '*'], ['*', '/']⟩]⟩,
   ⟨"C Shell", [['#']], [⟨[], []⟩]⟩,
   ⟨"Cairo", [['/', '/']], [⟨[], []⟩]⟩,
   ⟨"Carbon", [['/', '/']], [⟨[], []⟩]⟩,
   ⟨"Cap'n Proto", [['#']], [⟨[], []⟩]⟩,
   ⟨"Carp", [[';']], [⟨[], []⟩]⟩,
   ⟨"C#", [['/', '/']], [⟨['/', '*'], ['*', '/']⟩]⟩,
   ⟨"Chapel", [['/', '/']], [⟨['/', '*'], ['*', '/']⟩]⟩,
   ⟨"Circom", [['/', '/']], [⟨['/', '*'], ['*', '/']⟩]⟩,
   ⟨"Clojure", [['#'], ['#', '_']], [⟨[], []⟩]⟩,
   ⟨"COBOL", [['*'], ['/']], [⟨[], []⟩]⟩,
   ⟨"CoffeeScript", [['#']], [⟨['#', '#', '#'], ['#', '#', '#']⟩]⟩,
   ⟨"Coq", [['(', '*']], [⟨['(', '*'], ['*', ')']⟩]⟩,
   ⟨"ColdFusion", [], [⟨['<', '!', '-', '-', '-'], ['-', '-', '-', '>']⟩]⟩,
   ⟨"ColdFusion CFScript", [['/', '/']], [⟨['/', '*'], ['*', '/']⟩]⟩,
   ⟨"CMake", [['#']], [⟨[], []⟩]⟩,
   ⟨"C++", [['/', '/']], [⟨['/', '*'], ['*', '/']⟩]⟩,
   ⟨"C++ Header", [['/', '/']], [⟨['/', '*'], ['*', '/']⟩]⟩,
   ⟨"Crystal", [['#']], [⟨[], []⟩]⟩,
   ⟨"CSS", [['/', '/']], [⟨['/', '*'], ['*', '/']⟩]⟩,
   ⟨"Cython", [['#']], [⟨['"', '"', '"'], ['"', '"', '"']⟩]⟩,
   ⟨"CUDA", [['/', '/']], [⟨['/', '*'], ['*', '/']⟩]⟩,
   ⟨"D", [['/', '/']], [⟨['/', '*'], ['*', '/']⟩]⟩,
   ⟨"Dart", [['/', '/'], ['/', '/', '/']], [⟨['/', '*'], ['*', '/']⟩]⟩,
   ⟨"Dhall", [['-', '-']], [⟨['{', '-'], ['-', '}']⟩]⟩,
   ⟨"DTrace", [], [⟨['/', '*'], ['*', '/']⟩]⟩,
   ⟨"Device Tree", [['/', '/']], [⟨['/', '*'], ['*', '/']⟩]⟩,
   ⟨"Eiffel", [['-', '-']], [⟨[], []⟩]⟩,
   ⟨"Elm", [['-', '-']], [⟨['{', '-'], ['-', '}']⟩]⟩,
   ⟨"Elixir", [['#']], [⟨[], []⟩]⟩,
   ⟨"Erlang", [['%']], [⟨[], []⟩]⟩,
   ⟨"Expect", [['#']], [⟨[], []⟩]⟩,
   ⟨"Fish", [['#']], [⟨[], []⟩]⟩,
   ⟨"Frege", [['-', '-']], [⟨['{', '-'], ['-', '}']⟩]⟩,
   ⟨"F*", [['(', '*'], ['/', '/']], [⟨['(', '*'], ['*', ')']⟩]⟩,
   ⟨"F#", [['(', '*']], [⟨['(', '*'], ['*', ')']⟩]⟩,
   ⟨"Lean", [['-', '-']], [⟨['/', '-'], ['-', '/']⟩]⟩,
   ⟨"Logtalk", [['%']], [⟨[], []⟩]⟩,
   ⟨"Lua", [['-', '-']], [⟨['-', '-', '[', '['], [']', ']']⟩]⟩,
   ⟨"Lilypond", [['%']], [⟨[], []⟩]⟩,
   ⟨"LISP", [[';', ';']], [⟨['#', '|'], ['|', '#']⟩]⟩,
   ⟨"LiveScript", [['#']], [⟨['/', '*'], ['*', '/']⟩]⟩,
   ⟨"Factor", [['!', ' ']], [⟨[], []⟩]⟩,
   ⟨"FORTRAN Legacy", [['c'], ['C'], ['!'], ['*']], [⟨[], []⟩]⟩,
   ⟨"FORTRAN Modern", [['!']], [⟨[], []⟩]⟩,
   ⟨"Gherkin", [['#']], [⟨[], []⟩]⟩,
   ⟨"Gleam", [['/', '/']], [⟨[], []⟩]⟩,
   ⟨"GLSL", [['/', '/']], [⟨['/', '*'], ['*', '/']⟩]⟩,
   ⟨"Go", [['/', '/']], [⟨['/', '*'], ['*', '/']⟩]⟩,
   ⟨"Groovy", [['/', '/']], [⟨['/', '*'], ['*', '/']⟩]⟩,
   ⟨"Handlebars", [], [⟨['<', '!', '-', '-'], ['-', '-', '>']⟩, ⟨['{', '{', '!'], ['}', '}']⟩]⟩,
   ⟨"Haskell", [['-', '-']], [⟨['{', '-'], ['-', '}']⟩]⟩,
   ⟨"Haxe", [['/', '/']], [⟨['/', '*'], ['*', '/']⟩]⟩,
   ⟨"Hare", [['/', '/']], [⟨[], []⟩]⟩,
   ⟨"HLSL", [['/', '/']], [⟨['/', '*'], ['*', '/']⟩]⟩,
   ⟨"HTML", [['/', '/'], ['<', '!', '-', '-']], [⟨['<', '!', '-', '-'], ['-', '-', '>']⟩]⟩,
   ⟨"Idris", [['-', '-']], [⟨['{', '-'], ['-', '}']⟩]⟩,
   ⟨"Imba", [['#']], [⟨['#', '#', '#'], ['#', '#', '#']⟩]⟩,
   ⟨"Io", [['/', '/'], ['#']], [⟨['/', '*'], ['*', '/']⟩]⟩,
   ⟨"SKILL", [[';']], [⟨['/', '*'], ['*', '/']⟩]⟩,
   ⟨"JAI", [['/', '/']], [⟨['/', '*'], ['*', '/']⟩]⟩,
   ⟨"Janet", [['#']], [⟨[], []⟩]⟩,
   ⟨"Java", [['/', '/']], [⟨['/', '*'], ['*', '/']⟩]⟩,
   ⟨"JSP", [['/', '/']], [⟨['/', '*'], ['*', '/']⟩]⟩,
   ⟨"JavaScript", [['/', '/']], [⟨['/', '*'], ['*', '/']⟩]⟩,
   ⟨"Julia", [['#']], [⟨['#', ':', '='], [':', '=', '#']⟩]⟩,
   ⟨"Jupyter Notebook", [['#']], [⟨[], []⟩]⟩,
   ⟨"JSON", [], [⟨[], []⟩]⟩,
   ⟨"JSX", [['/', '/']], [⟨['/', '*'], ['*', '/']⟩]⟩,
   ⟨"Koka", [['/', '/']], [⟨['/', '*'], ['*', '/']⟩]⟩,
   ⟨"Kotlin", [['/', '/']], [⟨['/', '*'], ['*', '/']⟩]⟩,
   ⟨"LD Script", [['/', '/']], [⟨['/', '*'], ['*', '/']⟩]⟩,
   ⟨"LESS", [['/', '/']], [⟨['/', '*'], ['*', '/']⟩]⟩,
   ⟨"Objective-C", [['/', '/']], [⟨['/', '*'], ['*', '/']⟩]⟩,
   ⟨"Markdown", [['<', '!', '-', '-']], [⟨['<', '!', '-', '-'], ['-', '-', '>']⟩]⟩,
   ⟨"Motoko", [['/', '/']], [⟨['/', '*'], ['*', '/']⟩]⟩,
   ⟨"Nearley", [['#']], [⟨[], []⟩]⟩,
   ⟨"Nix", [['#']], [⟨['/', '*'], ['*', '/']⟩]⟩,
   ⟨"NSIS", [['#'], [';']], [⟨['/', '*'], ['*', '/']⟩]⟩,
   ⟨"Nu", [[';'], ['#']], [⟨[], []⟩]⟩,
   ⟨"OCaml", [], [⟨['(', '*'], ['*', ')']⟩]⟩,
   ⟨"Objective-C++", [['/', '/']], [⟨['/', '*'], ['*', '/']⟩]⟩,
   ⟨"Makefile", [['#']], [⟨[], []⟩]⟩,
   ⟨"MATLAB", [['%']], [⟨['%', '{'], ['}', '%']⟩]⟩,
   ⟨"Mercury", [['%']], [⟨['/', '*'], ['*', '/']⟩]⟩,
   ⟨"Maven", [['<', '!', '-', '-']], [⟨['<', '!', '-', '-'], ['-', '-', '>']⟩]⟩,
   ⟨"Meson", [['#']], [⟨[], []⟩]⟩,
   ⟨"Mojo", [['#']], [⟨[], []⟩]⟩,
   ⟨"Move", [['/', '/']], [⟨[], []⟩]⟩,
   ⟨"Mustache", [], [⟨['{', '{', '!'], ['}', '}']⟩]⟩,
   ⟨"M4", [['#']], [⟨[], []⟩]⟩,
   ⟨"Nim", [['#']], [⟨['#', '['], [']', '#']⟩]⟩,
   ⟨"Nunjucks", [], [⟨['{', '#'], ['#', '}']⟩, ⟨['<', '!', '-', '-'], ['-', '-', '>']⟩]⟩,
   ⟨"lex", [], [⟨['/', '*'], ['*', '/']⟩]⟩,
   ⟨"Odin", [['/', '/']], [⟨['/', '*'], ['*', '/']⟩]⟩,
   ⟨"Ohm", [['/', '/']], [⟨['/', '*'], ['*', '/']⟩]⟩,
   ⟨"PHP", [['#'], ['/', '/']], [⟨['/', '*'], ['*', '/']⟩]⟩,
   ⟨"Pascal", [['/', '/']], [⟨['{'], [')']⟩]⟩,
   ⟨"Perl", [['#']], [⟨[':', '='], [':', '=', 'c', 'u', 't']⟩]⟩,
   ⟨"Plain Text", [], [⟨[], []⟩]⟩,
   ⟨"Plan9 Shell", [['#']], [⟨[], []⟩]⟩,
   ⟨"Pony", [['/', '/']], [⟨['/', '*'], ['*', '/']⟩]⟩,
   ⟨"PowerShell", [['#']], [⟨['<', '#'], ['#', '>']⟩]⟩,
   ⟨"Polly", [['<', '!', '-', '-']], [⟨['<', '!', '-', '-'], ['-', '-', '>']⟩]⟩,
   ⟨"Protocol Buffers", [['/', '/']], [⟨[], []⟩]⟩,
   ⟨"Python", [['#']], [⟨['"', '"', '"'], ['"', '"', '"']⟩]⟩,
   ⟨"Q", [['/', ' ']], [⟨['\\'], ['/']⟩, ⟨['/'], ['\\']⟩]⟩,
   ⟨"QML", [['/', '/']], [⟨['/', '*'], ['*', '/']⟩]⟩,
   ⟨"R", [['#']], [⟨[], []⟩]⟩,
   ⟨"Rebol", [[';']], [⟨[], []⟩]⟩,
   ⟨"Red", [[';']], [⟨[], []⟩]⟩,
   ⟨"Rego", [['#']], [⟨[], []⟩]⟩,
   ⟨"RMarkdown", [], [⟨[], []⟩]⟩,
   ⟨"RAML", [['#']], [⟨[], []⟩]⟩,
   ⟨"Racket", [[';']], [⟨['#', '|'], ['|', '#']⟩]⟩,
   ⟨"ReStructuredText", [], [⟨[], []⟩]⟩,
   ⟨"Ring", [['#'], ['/', '/']], [⟨['/', '*'], ['*', '/']⟩]⟩,
   ⟨"Ruby", [['#']], [⟨[':', '=', 'b', 'e', 'g', 'i', 'n'], [':', '=', 'e', 'n', 'd']⟩]⟩,
   ⟨"Ruby HTML", [['<', '!', '-', '-']], [⟨['<', '!', '-', '-'], ['-', '-', '>']⟩]⟩,
   ⟨"Rust", [['/', '/'], ['/', '/', '/'], ['/', '/', '!']], [⟨['/', '*'], ['*', '/']⟩]⟩,
   ⟨"Scala", [['/', '/']], [⟨['/', '*'], ['*', '/']⟩]⟩,
   ⟨"Sass", [['/', '/']], [⟨['/', '*'], ['*', '/']⟩]⟩,
   ⟨"Scheme", [[';']], [⟨['#', '|'], ['|', '#']⟩]⟩,
   ⟨"sed", [['#']], [⟨[], []⟩]⟩,
   ⟨"Stan", [['/', '/']], [⟨['/', '*'], ['*', '/']⟩]⟩,
   ⟨"Solidity", [['/', '/']], [⟨['/', '*'], ['*', '/']⟩]⟩,
   ⟨"Bourne Shell", [['#']], [⟨[], []⟩]⟩,
   ⟨"Standard ML", [], [⟨['(', '*'], ['*', ')']⟩]⟩,
   ⟨"SQL", [['-', '-']], [⟨['/', '*'], ['*', '/']⟩]⟩,
   ⟨"Svelte", [['/', '/']], [⟨['/', '*'], ['*', '/']⟩, ⟨['<', '!', '-', '-'], ['-', '-', '>']⟩]⟩,
   ⟨"Swift", [['/', '/']], [⟨['/', '*'], ['*', '/']⟩]⟩,
   ⟨"Terra", [['-', '-']], [⟨['-', '-', '[', '['], [']', ']']⟩]⟩,
   ⟨"TeX", [['%']], [⟨[], []⟩]⟩,
   ⟨"Isabelle", [], [⟨['(', '*'], ['*', ')']⟩]⟩,
   ⟨"TLA", [['\\', '*']], [⟨['(', '*'], ['*', ')']⟩]⟩,
   ⟨"Tcl/Tk", [['#']], [⟨[], []⟩]⟩,
   ⟨"TOML", [['#']], [⟨[], []⟩]⟩,
   ⟨"TypeScript", [['/', '/']], [⟨['/', '*'], ['*', '/']⟩]⟩,
   ⟨"HCL", [['#'], ['/', '/']], [⟨['/', '*'], ['*', '/']⟩]⟩,
   ⟨"Umka", [['/', '/']], [⟨['/', '*'], ['*', '/']⟩]⟩,
   ⟨"Unity-Prefab", [], [⟨[], []⟩]⟩,
   ⟨"MSBuild script", [['<', '!', '-', '-']], [⟨['<', '!', '-', '-'], ['-', '-', '>']⟩]⟩,
   ⟨"Vala", [['/', '/']], [⟨['/', '*'], ['*', '/']⟩]⟩,
   ⟨"Verilog", [['/', '/']], [⟨['/', '*'], ['*', '/']⟩]⟩,
   ⟨"VimL", [['"']], [⟨[], []⟩]⟩,
   ⟨"Visual Basic", [['\x27']], [⟨[], []⟩]⟩,
   ⟨"Vue", [['<', '!', '-', '-']], [⟨['<', '!', '-', '-'], ['-', '-', '>']⟩]⟩,
   ⟨"Vyper", [['#']], [⟨['"', '"', '"'], ['"', '"', '"']⟩]⟩,
   ⟨"WiX", [['<', '!', '-', '-']], [⟨['<', '!', '-', '-'], ['-', '-', '>']⟩]⟩,
   ⟨"XML", [['<', '!', '-', '-']], [⟨['<', '!', '-', '-'], ['-', '-', '>']⟩]⟩,
   ⟨"XML resource", [['<', '!', '-', '-']], [⟨['<', '!', '-', '-'], ['-', '-', '>']⟩]⟩,
   ⟨"XSLT", [['<', '!', '-', '-']], [⟨['<', '!', '-', '-'], ['-', '-', '>']⟩]⟩,
   ⟨"XSD", [['<', '!', '-', '-']], [⟨['<', '!', '-', '-'], ['-', '-', '>']⟩]⟩,
   ⟨"YAML", [['#']], [⟨[], []⟩]⟩,
   ⟨"Yacc", [['/', '/']], [⟨['/', '*'], ['*', '/']⟩]⟩,
   ⟨"Yul", [['/', '/']], [⟨['/', '*'], ['*', '/']⟩]⟩,
   ⟨"Zephir", [['/', '/']], [⟨['/', '*'], ['*', '/']⟩]⟩,
   ⟨"Zig", [['/', '/'], ['/', '/', '/']], [⟨[], []⟩]⟩,
   ⟨"Zsh", [['#']], [⟨[], []⟩]⟩]

end LineCensus.Registry.Bundled
