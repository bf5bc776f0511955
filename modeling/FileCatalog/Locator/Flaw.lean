import FileCatalog.Escape

/-!
# Flaws of locators

Every reason for which a locator is refused, apart from the text it is reported with. Which text
that is depends on the reader: the whole locator, or the part of it that was being decoded.
-/

namespace FileCatalog.Locator

inductive Flaw where
  | noScheme
  | invalidScheme (scheme : String)
  | noAuthority
  | nameNotText
  | emptyName
  | unterminatedId
  | invalidFid (text : String)
  | escape (flaw : Escape.Flaw)
  | twoPaths
  | pathNotText
  deriving DecidableEq, Repr

def Flaw.reason : Flaw → String
  | noScheme => "missing scheme"
  | invalidScheme scheme => "invalid scheme '" ++ scheme ++ "'"
  | noAuthority => "expected '<backend>://<fsname>'"
  | nameNotText => "filesystem name is not UTF-8"
  | emptyName => "empty filesystem name"
  | unterminatedId => "unterminated identifier"
  | invalidFid text => "invalid lustre fid '" ++ text ++ "'"
  | escape flaw => flaw.reason
  | twoPaths => "path given both in the uri and the fragment"
  | pathNotText => "path is not UTF-8"

def Flaw.fault (flaw : Flaw) (text : String) : Fault := .invalidLocator text flaw.reason

end FileCatalog.Locator
