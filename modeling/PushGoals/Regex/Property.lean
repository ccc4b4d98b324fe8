import PushGoals.Text.Age
import PushGoals.Text.ScriptExtension
import PushGoals.Text.Segmentation

/-!
# Properties by name

A set of characters may be asked for by the name of a property that they have
(`propertySet?`) or by a property and its value (`valueSet?`).  Names are compared
loosely: case, blanks, hyphens, underscores and a leading `is` do not count.
-/

namespace PushGoals.Regex

open Text (CharSet nameOfAlias?)

/-- A name without what does not count in it. -/
def looseName (name : List Char) : String :=
  let drop (cs : List Char) : List Char :=
    (cs.filter (fun c => c.toNat < 0x80 && c != ' ' && c != '_' && c != '-')).map Char.toLower
  match name with
  | i :: s :: rest =>
      if i.toLower == 'i' && s.toLower == 's' then
        if drop rest == ['c'] then "isc" else String.ofList (drop rest)
      else String.ofList (drop name)
  | _ => String.ofList (drop name)

/-- General categories with the names they go by; surrogates are no characters. -/
def categoryNames : List String :=
  ["Lu=lu,uppercaseletter Ll=ll,lowercaseletter Lt=lt,titlecaseletter Lm=lm,modifierletter",
   "Lo=lo,otherletter L=l,letter LC=lc,casedletter M=m,mark,combiningmark",
   "Mn=mn,nonspacingmark Mc=mc,spacingmark Me=me,enclosingmark N=n,number",
   "Nd=nd,decimalnumber,digit Nl=nl,letternumber No=no,othernumber P=p,punctuation,punct",
   "Pc=pc,connectorpunctuation Pd=pd,dashpunctuation Ps=ps,openpunctuation",
   "Pe=pe,closepunctuation Pi=pi,initialpunctuation Pf=pf,finalpunctuation",
   "Po=po,otherpunctuation S=s,symbol Sm=sm,mathsymbol Sc=sc,currencysymbol",
   "Sk=sk,modifiersymbol So=so,othersymbol Z=z,separator Zs=zs,spaceseparator",
   "Zl=zl,lineseparator Zp=zp,paragraphseparator C=c,other Cc=cc,control,cntrl",
   "Cf=cf,format Co=co,privateuse Cn=cn,unassigned"]

/-- Versions of Unicode with the names they go by. -/
def ageNames : List String :=
  Text.ages.map fun (version, _) =>
    version ++ "=" ++ version ++ ",v" ++ String.ofList (version.toList.filter (· != '.'))

/-- Values of the properties for segmentation with the names they go by. -/
def graphemeBreakNames : List String :=
  ["Control=cn,control CR=cr Extend=ex,extend L=l LF=lf LV=lv LVT=lvt Prepend=pp,prepend",
   "Regional_Indicator=ri,regionalindicator SpacingMark=sm,spacingmark T=t V=v ZWJ=zwj"]

def wordBreakNames : List String :=
  ["ALetter=le,aletter CR=cr Double_Quote=dq,doublequote ExtendNumLet=ex,extendnumlet",
   "Extend=extend Format=fo,format Hebrew_Letter=hl,hebrewletter Katakana=ka,katakana LF=lf",
   "MidNumLet=mb,midnumlet MidLetter=ml,midletter MidNum=mn,midnum Newline=nl,newline",
   "Numeric=nu,numeric Regional_Indicator=ri,regionalindicator Single_Quote=sq,singlequote",
   "WSegSpace=wsegspace ZWJ=zwj"]

def sentenceBreakNames : List String :=
  ["ATerm=at,aterm Close=cl,close CR=cr Extend=ex,extend Format=fo,format OLetter=le,oletter",
   "LF=lf Lower=lo,lower Numeric=nu,numeric SContinue=sc,scontinue Sep=se,sep Sp=sp",
   "STerm=st,sterm Upper=up,upper"]

/-- The characters of a general category, or all characters with any or a certain
kind of category. -/
def categorySet? : String → Option CharSet
  | "any" => some .all
  | "assigned" => some (CharSet.ofCategory "Cn").complement
  | "ascii" => some (.ofCharRanges [('\x00', '\x7f')])
  | name => (nameOfAlias? categoryNames name).map .ofCategory

def scriptSet? (name : String) : Option CharSet :=
  (Text.scriptOfName? name).map .ofScript

/-- The characters with a property that goes by one name.  Three names of properties
are left to the categories that share them. -/
def propertySet? (name : List Char) : Option CharSet :=
  let name := looseName name
  let property :=
    if ["cf", "sc", "lc"].contains name then none else Text.propertyOfName? name
  match property with
  | some property => CharSet.ofProperty? property
  | none => (categorySet? name) <|> (scriptSet? name)

/-- The characters with a value of a property. -/
def valueSet? (property value : List Char) : Option CharSet :=
  let value := looseName value
  match looseName property with
  | "gc" | "generalcategory" => categorySet? value
  | "sc" | "script" => scriptSet? value
  | "scx" | "scriptextensions" => (Text.scriptOfName? value).map .usedWithScript
  | "age" => (nameOfAlias? ageNames value).bind CharSet.ofAge?
  | "gcb" | "graphemeclusterbreak" =>
      (nameOfAlias? graphemeBreakNames value).bind CharSet.ofGraphemeBreak?
  | "wb" | "wordbreak" => (nameOfAlias? wordBreakNames value).bind CharSet.ofWordBreak?
  | "sb" | "sentencebreak" => (nameOfAlias? sentenceBreakNames value).bind CharSet.ofSentenceBreak?
  | _ => none

end PushGoals.Regex
