import MarkTex.Markdown.Address.Parts
import MarkTex.Markdown.Address.Percent
import MarkTex.Markdown.Address.Punycode

/-!
# Normal addresses

An address is stored in ASCII: host names of the schemes that have internet hosts in their ASCII
form, everything else percent-encoded. Addresses of some schemes are not let through.
-/

namespace MarkTex.Markdown.Address

/-- Whether a scheme has internet hosts; an address without scheme counts as one of them. -/
def hasInternetHost (scheme : Text) : Bool :=
  ["", "http:", "https:", "mailto:"].any (·.toList = scheme)

/-- The parts of an address with the host name changed, where it is an internet host. -/
def mapHost (f : Text → Text) (p : Parts) : Parts :=
  if !p.host.isEmpty && hasInternetHost p.scheme then { p with host := f p.host } else p

/-- The address of the given parts in ASCII. The brackets around a host stay as they are. -/
def Parts.encode (p : Parts) : Text :=
  Address.encode p.writeFront ++
    (if p.isBracketed then '[' :: Address.encode p.host ++ [']'] else Address.encode p.host) ++
    Address.encode p.writeBack

/-- An address in ASCII. -/
def normal (address : Text) : Text :=
  (mapHost asciiHost (Parts.read address)).encode

/-- An address for reading. -/
def readable (address : Text) : Text :=
  decode (mapHost readableHost (Parts.read address)).write

/-- Whether an address may be linked to: not if its scheme runs or reads what it should not, unless
it holds an image. -/
def isSafe (address : Text) : Bool :=
  let t := Text.lower (Text.strip address)
  if ["vbscript:", "javascript:", "file:", "data:"].any (·.toList.isPrefixOf t) then
    ["data:image/gif;", "data:image/png;", "data:image/jpeg;", "data:image/webp;"].any
      (·.toList.isPrefixOf t)
  else true

end MarkTex.Markdown.Address
