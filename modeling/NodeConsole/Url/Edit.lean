import NodeConsole.Url.Parser
/-!
Changing single parts of a URL of the web. The new part is a plain text: marks that would end it in a
whole URL are encoded, so nothing beside the part changes.
-/

namespace NodeConsole.Url

def withPath (url : Url) (path : List Char) : Url :=
  { url with path := .segments (readSegments true (withoutIgnored path)) }

def withQuery (url : Url) (query : Option (List Char)) : Url :=
  { url with query := query.map fun query => encodeQuery url.scheme (withoutIgnored query) }

example : ((parse "http://h/a?x#f").toOption.map fun url =>
    ((url.withPath "b?c\\..".toList).withQuery (some "p#q".toList)).text) =
    some "http://h/?p%23q#f" := by decide +kernel

end NodeConsole.Url
