import Scaffold.Project.Settings
import Scaffold.Settings.Section
import Scaffold.Source.Layout

/-!
# The sections of the settings file

One section says how the sources are laid out, the other where the project goes.
-/

namespace Scaffold.Settings

open SectionField

def analyzer : Section SourceLayout where
  name := "analyzer"
  recordName := "AnalyzerConfig"
  defaults := {}
  fields := [
    text "routes_dir" fun s l => { l with routes := s },
    text "controllers_dir" fun s l => { l with controllers := s },
    text "middleware_dir" fun s l => { l with middleware := s },
    text "services_dir" fun s l => { l with services := s },
    text "migrations_dir" fun s l => { l with migrations := s },
    text "schema_setup_file" fun s l => { l with schemaSetup := s },
    text "manifest_file" fun s l => { l with manifest := s },
    texts "source_extensions" fun s l => { l with sourceExtensions := s },
    texts "migration_extensions" fun s l => { l with migrationExtensions := s },
    text "route_suffix" fun s l => { l with routeSuffix := s },
    text "controller_suffix" fun s l => { l with controllerSuffix := s },
    texts "extra_route_patterns" fun s l => { l with extraRoutePatterns := s }]

def generator : Section ProjectSettings where
  name := "generator"
  recordName := "GeneratorConfig"
  defaults := {}
  fields := [
    text "output_dir" fun s p => { p with output := s },
    text "module_name" fun s p => { p with moduleName := s },
    flag "clean_output" fun b p => { p with cleanOutput := b }]

end Scaffold.Settings
