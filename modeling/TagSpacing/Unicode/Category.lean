/-! General categories of characters, and the names for one or several of them. -/
namespace TagSpacing.Unicode

/-- A general category, by its usual two letters. -/
inductive Category
  | lu | ll | lt | lm | lo
  | mn | mc | me
  | nd | nl | no
  | pc | pd | ps | pe | pi | pf | po
  | sm | sc | sk | so
  | zs | zl | zp
  | cc | cf | cs | co | cn
deriving DecidableEq

namespace Category

def letters : List Category := [lu, ll, lt, lm, lo]
def marks : List Category := [mn, mc, me]
def numbers : List Category := [nd, nl, no]
def punctuation : List Category := [pc, pd, ps, pe, pi, pf, po]
def symbols : List Category := [sm, sc, sk, so]
def separators : List Category := [zs, zl, zp]

/-- A character is never a surrogate, so that category has no name here. -/
def others : List Category := [cc, cf, co, cn]

/-- The categories of the characters that are in use. -/
def assigned : List Category :=
  letters ++ marks ++ numbers ++ punctuation ++ symbols ++ separators ++ [cc, cf, co]

/-- The names, in lower case and without separators, and the categories that each stands for. -/
def named : List (List String × List Category) := [
  (["l", "letter"], letters),
  (["lc", "casedletter"], [lu, ll, lt]),
  (["lu", "uppercaseletter"], [lu]),
  (["ll", "lowercaseletter"], [ll]),
  (["lt", "titlecaseletter"], [lt]),
  (["lm", "modifierletter"], [lm]),
  (["lo", "otherletter"], [lo]),
  (["m", "mark", "combiningmark"], marks),
  (["mn", "nonspacingmark"], [mn]),
  (["mc", "spacingmark"], [mc]),
  (["me", "enclosingmark"], [me]),
  (["n", "number"], numbers),
  (["nd", "decimalnumber", "digit"], [nd]),
  (["nl", "letternumber"], [nl]),
  (["no", "othernumber"], [no]),
  (["p", "punctuation", "punct"], punctuation),
  (["pc", "connectorpunctuation"], [pc]),
  (["pd", "dashpunctuation"], [pd]),
  (["ps", "openpunctuation"], [ps]),
  (["pe", "closepunctuation"], [pe]),
  (["pi", "initialpunctuation"], [pi]),
  (["pf", "finalpunctuation"], [pf]),
  (["po", "otherpunctuation"], [po]),
  (["s", "symbol"], symbols),
  (["sm", "mathsymbol"], [sm]),
  (["sc", "currencysymbol"], [sc]),
  (["sk", "modifiersymbol"], [sk]),
  (["so", "othersymbol"], [so]),
  (["z", "separator"], separators),
  (["zs", "spaceseparator"], [zs]),
  (["zl", "lineseparator"], [zl]),
  (["zp", "paragraphseparator"], [zp]),
  (["c", "other"], others),
  (["cc", "control", "cntrl"], [cc]),
  (["cf", "format"], [cf]),
  (["co", "privateuse"], [co]),
  (["cn", "unassigned"], [cn])]

/-- The categories that a name stands for. -/
def ofName? (name : String) : Option (List Category) :=
  (named.find? (·.1.contains name)).map (·.2)

/-- The category that two letters in their usual case stand for. -/
def ofCode : List Char → Category
  | ['L', 'u'] => lu
  | ['L', 'l'] => ll
  | ['L', 't'] => lt
  | ['L', 'm'] => lm
  | ['L', 'o'] => lo
  | ['M', 'n'] => mn
  | ['M', 'c'] => mc
  | ['M', 'e'] => me
  | ['N', 'd'] => nd
  | ['N', 'l'] => nl
  | ['N', 'o'] => no
  | ['P', 'c'] => pc
  | ['P', 'd'] => pd
  | ['P', 's'] => ps
  | ['P', 'e'] => pe
  | ['P', 'i'] => pi
  | ['P', 'f'] => pf
  | ['P', 'o'] => po
  | ['S', 'm'] => sm
  | ['S', 'c'] => sc
  | ['S', 'k'] => sk
  | ['S', 'o'] => so
  | ['Z', 's'] => zs
  | ['Z', 'l'] => zl
  | ['Z', 'p'] => zp
  | ['C', 'c'] => cc
  | ['C', 'f'] => cf
  | ['C', 's'] => cs
  | ['C', 'o'] => co
  | _ => cn

end Category

end TagSpacing.Unicode
